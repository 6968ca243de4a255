import OpenclawNode.Base.Decode
import OpenclawNode.Base.Except
import OpenclawNode.Node.Lifecycle

/-! Invocation events as the node runtime decodes them. -/
namespace OpenclawNode.Node

open Except (ensure)
open Json (Value asString asU64 nullable optionalNonNull required structFields)
open Text (utf8)

def maxInputFrameBytes : Nat := 16 * 1024

def requireNonEmptyResultField (name value : String) : Except ClientError String :=
  if value = "" then .error (.invalidFrame (name ++ " must not be empty")) else .ok value

/-- A value that was decoded, or the frame error that names the message. -/
def decoded {α : Type} (message : String) (describe : Value → String) (payload : Value) :
    Option α → Except ClientError α
  | some a => .ok a
  | none => .error (.invalidFrame ("invalid " ++ message ++ ": " ++ describe payload))

structure InputPayload where
  id : String
  nodeId : String
  seq : UInt64
  json : String

def InputPayload.fromValue (v : Value) : Option InputPayload := do
  let field ← structFields ["id", "nodeId", "seq", "payloadJSON"] v
  let id ← required asString (field "id")
  let nodeId ← required asString (field "nodeId")
  let seq ← required asU64 (field "seq")
  let json ← required asString (field "payloadJSON")
  return { id, nodeId, seq, json }

/-- Decode an input frame. The decoder's own error text is a parameter. -/
def parseInvocationInput (describe : Value → String) (payload : Value) :
    Except ClientError NodeSessionEvent := do
  let payload ← decoded "node.invoke.input" describe payload (InputPayload.fromValue payload)
  ensure ((utf8 payload.json).length ≤ maxInputFrameBytes)
    (.invalidFrame "node.invoke.input payloadJSON exceeds 16 KiB")
  let invokeId ← requireNonEmptyResultField "input invocation id" payload.id
  let nodeId ← requireNonEmptyResultField "input invocation node id" payload.nodeId
  return .invocationInput invokeId nodeId payload.seq payload.json

structure InvocationPayload where
  id : String
  nodeId : String
  command : String
  paramsJson : Option String
  timeoutMs : Option UInt64
  idempotencyKey : Option String
  sessionKey : Option String

def InvocationPayload.fromValue (v : Value) : Option InvocationPayload := do
  let field ← structFields ["id", "nodeId", "command", "paramsJSON", "timeoutMs",
    "idempotencyKey", "sessionKey"] v
  let id ← required asString (field "id")
  let nodeId ← required asString (field "nodeId")
  let command ← required asString (field "command")
  let paramsJson ← nullable asString (field "paramsJSON")
  let timeoutMs ← optionalNonNull asU64 (field "timeoutMs")
  let idempotencyKey ← optionalNonNull asString (field "idempotencyKey")
  let sessionKey ← nullable asString (field "sessionKey")
  return { id, nodeId, command, paramsJson, timeoutMs, idempotencyKey, sessionKey }

structure DecodedInvocation where
  id : String
  nodeId : String
  command : String
  params : Value
  receivedParamsBytes : Option Nat
  timeoutMs : Option UInt64
  idempotencyKey : Option String
  sessionKey : Option String

/-- The parameters, and the bytes in which they were received. -/
def decodeParams (fromStr : String → Except String Value) :
    Option String → Except ClientError (Value × Option Nat)
  | some text =>
    match fromStr text with
    | .ok params => .ok (params, some (utf8 text).length)
    | .error error => .error (.invalidFrame ("invalid invocation paramsJSON: " ++ error))
  | none => .ok (.null, some 0)

def decodeInvocation (describe : Value → String) (fromStr : String → Except String Value)
    (payload : Value) : Except ClientError DecodedInvocation := do
  let payload ← decoded "node.invoke.request" describe payload
    (InvocationPayload.fromValue payload)
  let (params, receivedParamsBytes) ← decodeParams fromStr payload.paramsJson
  return {
    id := payload.id
    nodeId := payload.nodeId
    command := payload.command
    params
    receivedParamsBytes
    timeoutMs := payload.timeoutMs
    idempotencyKey := payload.idempotencyKey
    sessionKey := payload.sessionKey }

/-- An optional field that may not be empty. -/
def requireNonEmptyOptional (name : String) : Option String → Except ClientError (Option String)
  | none => .ok none
  | some value => some <$> requireNonEmptyResultField name value

/-- Decode an invocation. The JSON parser and the decoder's own error text are parameters. -/
def parseInvocation (describe : Value → String) (fromStr : String → Except String Value)
    (payload : Value) (receivedAt : Nanos) : Except ClientError NodeInvocation := do
  let payload ← decodeInvocation describe fromStr payload
  let id ← requireNonEmptyResultField "invocation id" payload.id
  let nodeId ← requireNonEmptyResultField "invocation node id" payload.nodeId
  let command ← requireNonEmptyResultField "invocation command" payload.command
  let idempotencyKey ←
    requireNonEmptyOptional "invocation idempotency key" payload.idempotencyKey
  let sessionKey ← requireNonEmptyOptional "invocation session key" payload.sessionKey
  return {
    id, nodeId, command
    params := payload.params
    timeoutMs := payload.timeoutMs
    idempotencyKey, sessionKey
    receivedParamsBytes := payload.receivedParamsBytes
    receivedAt := some receivedAt }

/-- The parameters of the `node.invoke.result` request. -/
def invocationResultParams (invocation : NodeInvocation) :
    InvocationResult → Except ClientError Value
  | .success payload =>
    .ok (.object [("id", .string invocation.id), ("nodeId", .string invocation.nodeId),
      ("ok", .bool true), ("payload", payload)])
  | .failure code message => do
    let code ← requireNonEmptyResultField "error code" code
    let message ← requireNonEmptyResultField "error message" message
    return .object [
      ("error", .object [("code", .string code), ("message", .string message)]),
      ("id", .string invocation.id), ("nodeId", .string invocation.nodeId), ("ok", .bool false)]

end OpenclawNode.Node
