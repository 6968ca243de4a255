import OpenclawNode.Base.Content
import OpenclawNode.Base.JsonText
import OpenclawNode.Node.WireContract

/-! The pinned frames: how a conformance fixture is validated against the contract it is named for. -/
namespace OpenclawNode.Node.Wire

open Json (Value asList asString asU64 optionalNonNull readText required splitTag
  structFields)

/-- A field that holds any value, and is null when it is left out. -/
def anyValue (field : Option Value) : Value := (field.map Value.normal).getD .null

structure StateVersion where
  presence : UInt64
  health : UInt64

def StateVersion.fromValue (v : Value) : Option StateVersion := do
  let field ← structFields ["presence", "health"] v
  let presence ← required asU64 (field "presence")
  let health ← required asU64 (field "health")
  return { presence, health }

structure ErrorShape where
  code : String
  message : String
  details : Value
  retryable : Option Bool
  retryAfterMs : Option UInt64

def ErrorShape.fromValue (v : Value) : Option ErrorShape := do
  let field ← structFields ["code", "message", "details", "retryable", "retryAfterMs"] v
  let code ← required asString (field "code")
  let message ← required asString (field "message")
  let retryable ← optionalNonNull asBool (field "retryable")
  let retryAfterMs ← optionalNonNull asU64 (field "retryAfterMs")
  return { code, message, details := anyValue (field "details"), retryable, retryAfterMs }

def ErrorShape.validate (e : ErrorShape) : Except String Unit := do
  requireNonEmpty "error.code" e.code
  requireNonEmpty "error.message" e.message

inductive Frame
  | event (event : String) (payload : Value) (seq : Option UInt64)
      (stateVersion : Option StateVersion)
  | request (id method : String) (params : Value)
  | response (id : String) (ok : Bool) (payload : Value) (error : Option ErrorShape)

namespace Frame

/-- The type of a frame is read from the text itself, so only by its name. -/
def fromValue (v : Value) : Option Frame := do
  let (tag, content) ← splitTag "type" v
  let variant ← asString tag
  if variant = "event" then
    let field ← structFields ["event", "payload", "seq", "stateVersion"] content
    let event ← required asString (field "event")
    let seq ← optionalNonNull asU64 (field "seq")
    let stateVersion ← optionalNonNull StateVersion.fromValue (field "stateVersion")
    return .event event (anyValue (field "payload")) seq stateVersion
  else if variant = "req" then
    let field ← structFields ["id", "method", "params"] content
    let id ← required asString (field "id")
    let method ← required asString (field "method")
    return .request id method (anyValue (field "params"))
  else if variant = "res" then
    let field ← structFields ["id", "ok", "payload", "error"] content
    let id ← required asString (field "id")
    let ok ← required asBool (field "ok")
    let error ← optionalNonNull ErrorShape.fromValue (field "error")
    return .response id ok (anyValue (field "payload")) error
  else none

def validate : Frame → Except String Unit
  | .event name _ _ _ => requireNonEmpty "event" name
  | .request id method _ => do
    requireNonEmpty "id" id
    requireNonEmpty "method" method
  | .response id _ _ error => do
    requireNonEmpty "id" id
    match error with
    | some error => error.validate
    | none => .ok ()

end Frame

structure InvokeError where
  code : Option String
  message : Option String

def InvokeError.fromValue (v : Value) : Option InvokeError := do
  let field ← structFields ["code", "message"] v
  let code ← optionalNonNull asString (field "code")
  let message ← optionalNonNull asString (field "message")
  return { code, message }

/-- A field that may be left out but not be empty. -/
def requireNonEmptyField (field : String) : Option String → Except String Unit
  | some value => requireNonEmpty field value
  | none => .ok ()

def InvokeError.validate (e : InvokeError) : Except String Unit := do
  requireNonEmptyField "error.code" e.code
  requireNonEmptyField "error.message" e.message

structure NodeInvokeResult where
  id : String
  nodeId : String
  ok : Bool
  payload : Value
  payloadJson : Option String
  error : Option InvokeError

def NodeInvokeResult.fromValue (v : Value) : Option NodeInvokeResult := do
  let field ← structFields ["id", "nodeId", "ok", "payload", "payloadJSON", "error"] v
  let id ← required asString (field "id")
  let nodeId ← required asString (field "nodeId")
  let ok ← required asBool (field "ok")
  let payloadJson ← optionalNonNull asString (field "payloadJSON")
  let error ← optionalNonNull InvokeError.fromValue (field "error")
  return { id, nodeId, ok, payload := anyValue (field "payload"), payloadJson, error }

def NodeInvokeResult.validate (r : NodeInvokeResult) : Except String Unit := do
  requireNonEmpty "id" r.id
  requireNonEmpty "nodeId" r.nodeId
  match r.error with
  | some error => error.validate
  | none => .ok ()

structure DevicePairRequested where
  requestId : String
  deviceId : String
  publicKey : String
  ts : UInt64
  displayName : Option String
  platform : Option String
  deviceFamily : Option String
  clientId : Option String
  clientMode : Option String
  browserOrigin : Option String
  role : Option String
  roles : Option (List String)
  scopes : Option (List String)
  remoteIp : Option String
  silent : Option Bool
  isRepair : Option Bool

def DevicePairRequested.fromValue (v : Value) : Option DevicePairRequested := do
  let field ← structFields ["requestId", "deviceId", "publicKey", "ts", "displayName", "platform",
    "deviceFamily", "clientId", "clientMode", "browserOrigin", "role", "roles", "scopes",
    "remoteIp", "silent", "isRepair"] v
  let requestId ← required asString (field "requestId")
  let deviceId ← required asString (field "deviceId")
  let publicKey ← required asString (field "publicKey")
  let ts ← required asU64 (field "ts")
  let displayName ← optionalNonNull asString (field "displayName")
  let platform ← optionalNonNull asString (field "platform")
  let deviceFamily ← optionalNonNull asString (field "deviceFamily")
  let clientId ← optionalNonNull asString (field "clientId")
  let clientMode ← optionalNonNull asString (field "clientMode")
  let browserOrigin ← optionalNonNull asString (field "browserOrigin")
  let role ← optionalNonNull asString (field "role")
  let roles ← optionalNonNull (asList asString) (field "roles")
  let scopes ← optionalNonNull (asList asString) (field "scopes")
  let remoteIp ← optionalNonNull asString (field "remoteIp")
  let silent ← optionalNonNull asBool (field "silent")
  let isRepair ← optionalNonNull asBool (field "isRepair")
  return { requestId, deviceId, publicKey, ts, displayName, platform, deviceFamily, clientId,
           clientMode, browserOrigin, role, roles, scopes, remoteIp, silent, isRepair }

def validateNonEmptyItems (field : String) : Option (List String) → Except String Unit
  | some values => Except.ensure ("" ∉ values) (field ++ " items must have minLength 1")
  | none => .ok ()

def DevicePairRequested.validate (r : DevicePairRequested) : Except String Unit := do
  requireNonEmpty "requestId" r.requestId
  requireNonEmpty "deviceId" r.deviceId
  requireNonEmpty "publicKey" r.publicKey
  requireNonEmptyField "displayName" r.displayName
  requireNonEmptyField "platform" r.platform
  requireNonEmptyField "deviceFamily" r.deviceFamily
  requireNonEmptyField "clientId" r.clientId
  requireNonEmptyField "clientMode" r.clientMode
  requireNonEmptyField "browserOrigin" r.browserOrigin
  requireNonEmptyField "role" r.role
  requireNonEmptyField "remoteIp" r.remoteIp
  validateNonEmptyItems "roles" r.roles
  validateNonEmptyItems "scopes" r.scopes

inductive FixtureError
  | invalidFrame (reason : String)
  | wrongEvent (expected actual : String)
  | invalidPayload (reason : String)
  | unsupportedContract (id : String)
  deriving DecidableEq, Repr

/-- The contracts that are named but not pinned. -/
def unsupportedContracts : List String :=
  ["connect.challenge", "node.pair.requested", "node.pair.resolved", "node.invoke.cancel",
    "disconnect-cleanup", "node.pending"]

/-- What the name of a frame has to be for a contract that is pinned otherwise. -/
def Frame.name : Frame → String
  | .event name _ _ _ => name
  | .request _ method _ => method
  | .response .. => "response"

def validateEventName (expected actual : String) : Except FixtureError Unit :=
  Except.ensure (actual = expected) (.wrongEvent expected actual)

variable (describe : Value → String)

def checkPayload {α : Type} (fromValue : Value → Option α) (validate : α → Except String Unit)
    (payload : Value) : Except FixtureError Unit :=
  ((decodePayload fromValue validate describe payload).map fun _ => ()).mapError .invalidPayload

/-- A frame that is well formed against the contract of a name. -/
def validateContract (contractId : String) (frame : Frame) : Except FixtureError Unit :=
  match contractId, frame with
  | "device.pair.requested", .event event payload _ _ => do
    validateEventName "device.pair.requested" event
    checkPayload describe DevicePairRequested.fromValue DevicePairRequested.validate payload
  | "node.invoke.request", .event event payload _ _ => do
    validateEventName "node.invoke.request" event
    checkPayload describe NodeInvokeRequest.fromValue NodeInvokeRequest.validate payload
  | "node.invoke.input", .event event payload _ _ => do
    validateEventName "node.invoke.input" event
    checkPayload describe NodeInvokeInput.fromValue NodeInvokeInput.validate payload
  | "node.invoke.result", .request _ method params => do
    validateEventName "node.invoke.result" method
    checkPayload describe NodeInvokeResult.fromValue NodeInvokeResult.validate params
  | contractId, frame =>
    if contractId ∈ unsupportedContracts then .error (.unsupportedContract contractId)
    else .error (.wrongEvent contractId frame.name)

def validateFrame (contractId : String) (v : Value) : Except FixtureError Unit :=
  match Frame.fromValue v with
  | none => .error (.invalidFrame (describe v))
  | some frame => do
    frame.validate.mapError .invalidFrame
    validateContract describe contractId frame

/-- Strictly validate a named fixture. The readers' own error texts are parameters. -/
def validateFixture (readDouble : List Char → Option Json.Double) (describeText : String → String)
    (contractId json : String) : Except FixtureError Unit :=
  match readText readDouble json with
  | none => .error (.invalidFrame (describeText json))
  | some v => validateFrame describe contractId v

end OpenclawNode.Node.Wire
