import OpenclawNode.Base.Content
import OpenclawNode.Base.JsonText
import OpenclawNode.Sidecar.Messages

/-! How the active sidecar messages are read. -/
namespace OpenclawNode.Sidecar

open Json (Value asList asString asU16 asU32 asU64 asUnitVariant asVariant exactFields nullable
  orNull required splitTag)

def asPortableU64 (v : Value) : Option UInt64 :=
  (asU64 v).bind fun n => if n ≤ maxPortableJsonInteger then some n else none

def asPortableValue (v : Value) : Option Value :=
  if portableJsonValue v.normal then some v.normal else none

namespace SidecarCommandRegistration

def fields : List String := ["name"]

def fromContent (v : Value) : Option SidecarCommandRegistration := do
  let field ← exactFields fields v
  let name ← required asString (field "name")
  return { name }

end SidecarCommandRegistration

namespace SidecarRuntimeConfiguration

def fields : List String :=
  ["manifestGeneration", "capabilities", "commands", "maxConcurrency", "maxInputBytes",
    "maxOutputBytes", "defaultTimeoutMs", "maxTimeoutMs", "resultGraceMs"]

def fromContent (v : Value) : Option SidecarRuntimeConfiguration := do
  let field ← exactFields fields v
  let manifestGeneration ← required asPortableU64 (field "manifestGeneration")
  let capabilities ← required (asList asString) (field "capabilities")
  let commands ← required (asList SidecarCommandRegistration.fromContent) (field "commands")
  let maxConcurrency ← required asU16 (field "maxConcurrency")
  let maxInputBytes ← required asU32 (field "maxInputBytes")
  let maxOutputBytes ← required asU32 (field "maxOutputBytes")
  let defaultTimeoutMs ← required asU32 (field "defaultTimeoutMs")
  let maxTimeoutMs ← required asU32 (field "maxTimeoutMs")
  let resultGraceMs ← required asU32 (field "resultGraceMs")
  return {
    manifestGeneration, capabilities, commands, maxConcurrency, maxInputBytes
    maxOutputBytes, defaultTimeoutMs, maxTimeoutMs, resultGraceMs }

end SidecarRuntimeConfiguration

namespace SidecarRuntimeManifest

def fields : List String := ["manifestGeneration", "capabilities", "commands"]

def fromContent (v : Value) : Option SidecarRuntimeManifest := do
  let field ← exactFields fields v
  let manifestGeneration ← required asPortableU64 (field "manifestGeneration")
  let capabilities ← required (asList asString) (field "capabilities")
  let commands ← required (asList asString) (field "commands")
  return { manifestGeneration, capabilities, commands }

end SidecarRuntimeManifest

namespace SidecarInvocation

def fields : List String :=
  ["id", "nodeId", "command", "params", "timeoutMs", "idempotencyKey", "sessionKey"]

/-- The timeout has a decoder of its own, so it must be there even to be null. -/
def fromContent (v : Value) : Option SidecarInvocation := do
  let field ← exactFields fields v
  let id ← required asString (field "id")
  let nodeId ← required asString (field "nodeId")
  let command ← required asString (field "command")
  let params ← required asPortableValue (field "params")
  let timeoutMs ← required (orNull asPortableU64) (field "timeoutMs")
  let idempotencyKey ← nullable asString (field "idempotencyKey")
  let sessionKey ← nullable asString (field "sessionKey")
  return { id, nodeId, command, params, timeoutMs, idempotencyKey, sessionKey }

end SidecarInvocation

namespace SidecarAdmissionDecision

def variants : List String := ["allow", "deny"]

def denyFields : List String := ["code", "message"]

/-- What is left of the content of a unit variant is passed over, unless it is by position. -/
def allowContent : Value → Option Unit
  | .object _ => some ()
  | .array [] => some ()
  | _ => none

def fromContent (v : Value) : Option SidecarAdmissionDecision := do
  let (outcome, content) ← splitTag "outcome" v
  let variant ← asVariant variants outcome
  if variant = "allow" then
    allowContent content
    return .allow
  else
    let field ← exactFields denyFields content
    let code ← required asString (field "code")
    let message ← required asString (field "message")
    return .deny code message

end SidecarAdmissionDecision

namespace SidecarInvocationResult

def variants : List String := ["success", "failure"]

def successFields : List String := ["payload"]

def failureFields : List String := ["code", "message"]

def fromContent (v : Value) : Option SidecarInvocationResult := do
  let (outcome, content) ← splitTag "outcome" v
  let variant ← asVariant variants outcome
  if variant = "success" then
    let field ← exactFields successFields content
    let payload ← required asPortableValue (field "payload")
    return .success payload
  else
    let field ← exactFields failureFields content
    let code ← required asString (field "code")
    let message ← required asString (field "message")
    return .failure code message

end SidecarInvocationResult

def SidecarRuntimeState.all : List SidecarRuntimeState :=
  [.configured, .connecting, .ready, .backingOff, .paused, .draining, .stopped]

def SidecarRuntimeState.ofName (name : String) : Option SidecarRuntimeState :=
  all.find? (·.name = name)

def SidecarRuntimeReason.all : List SidecarRuntimeReason :=
  [.transport, .gateway, .requestTimeout, .eventLagged, .activation, .deliverySaturated,
    .resultTask, .runtimeEnded, .shutdown, .pairing, .authentication, .protocol, .configuration,
    .identity]

def SidecarRuntimeReason.ofName (name : String) : Option SidecarRuntimeReason :=
  all.find? (·.name = name)

namespace SidecarRuntimeStatus

def fields : List String := ["state", "manifestGeneration", "runtimeVersion", "attempt", "reason"]

def fromContent (v : Value) : Option SidecarRuntimeStatus := do
  let field ← exactFields fields v
  let state ← required (asUnitVariant SidecarRuntimeState.ofName) (field "state")
  let manifestGeneration ← required asPortableU64 (field "manifestGeneration")
  let runtimeVersion ← required asString (field "runtimeVersion")
  let attempt ← required asPortableU64 (field "attempt")
  let reason ← nullable (asUnitVariant SidecarRuntimeReason.ofName) (field "reason")
  return { state, manifestGeneration, runtimeVersion, attempt, reason }

end SidecarRuntimeStatus

namespace SidecarRuntimeMessage

/-- The fields of the variant with this tag. -/
def fields : String → List String
  | "configure" => ["configuration"]
  | "configured" => ["manifest"]
  | "admission-request" => ["invocation"]
  | "admission-decision" => ["invocationId", "decision"]
  | "invoke" => ["invocation"]
  | "result" => ["invocationId", "result"]
  | "cancel" => ["invocationId"]
  | "status" => ["status"]
  | _ => []

def fromFields (kind : String) (field : String → Option Value) : Option SidecarRuntimeMessage :=
  match kind with
  | "configure" => do
    let configuration ← required SidecarRuntimeConfiguration.fromContent (field "configuration")
    return .configure configuration
  | "configured" => do
    let manifest ← required SidecarRuntimeManifest.fromContent (field "manifest")
    return .configured manifest
  | "admission-request" => do
    let invocation ← required SidecarInvocation.fromContent (field "invocation")
    return .admissionRequest invocation
  | "admission-decision" => do
    let invocationId ← required asString (field "invocationId")
    let decision ← required SidecarAdmissionDecision.fromContent (field "decision")
    return .admissionDecision invocationId decision
  | "invoke" => do
    let invocation ← required SidecarInvocation.fromContent (field "invocation")
    return .invoke invocation
  | "result" => do
    let invocationId ← required asString (field "invocationId")
    let result ← required SidecarInvocationResult.fromContent (field "result")
    return .result invocationId result
  | "cancel" => do
    let invocationId ← required asString (field "invocationId")
    return .cancel invocationId
  | "status" => do
    let status ← required SidecarRuntimeStatus.fromContent (field "status")
    return .status status
  | _ => none

/-- The type of a message is read from the text itself, so only by its name. -/
def fromContent (v : Value) : Option SidecarRuntimeMessage := do
  let (kind, content) ← splitTag "type" v
  let kind ← asString kind
  let field ← exactFields (fields kind) content
  fromFields kind field

/-- Read a message from a text. How doubles are read is a parameter. -/
def fromStr (readDouble : List Char → Option Json.Double) (text : String) :
    Option SidecarRuntimeMessage :=
  (Json.readText readDouble text).bind fromContent

end SidecarRuntimeMessage
end OpenclawNode.Sidecar
