import OpenclawNode.Node.Invocation
import OpenclawNode.Sidecar.Frame

/-! The active sidecar messages and how they are written. -/
namespace OpenclawNode.Sidecar

open BoundedWriter (Serialization)
open Json (literal string nat optional array object)
open Node (NodeInvocation InvocationResult HandlerError)

def maxPortableJsonInteger : UInt64 := sidecarMaxFeatureBits
def minPortableJsonInteger : Int64 := -9007199254740991

/-- Whether every number at every depth is exact for every JSON implementation. -/
def portableNumber : Json.Number → Bool
  | .posInt n => n ≤ maxPortableJsonInteger
  | .negInt n => minPortableJsonInteger ≤ n
  | .float d => d.value.den ≠ 1 || |d.value| ≤ 9007199254740991

mutual

def portableJsonValue : Json.Value → Bool
  | .null => true
  | .bool _ => true
  | .string _ => true
  | .number n => portableNumber n
  | .array values => portableAll values
  | .object members => portableMembers members

def portableAll : List Json.Value → Bool
  | [] => true
  | value :: values => portableJsonValue value && portableAll values

def portableMembers : List (String × Json.Value) → Bool
  | [] => true
  | (_, value) :: members => portableJsonValue value && portableMembers members

end

structure SidecarCommandRegistration where
  name : String
  deriving DecidableEq, Repr

structure SidecarRuntimeConfiguration where
  manifestGeneration : UInt64
  capabilities : List String
  commands : List SidecarCommandRegistration
  maxConcurrency : UInt16
  maxInputBytes : UInt32
  maxOutputBytes : UInt32
  defaultTimeoutMs : UInt32
  maxTimeoutMs : UInt32
  resultGraceMs : UInt32
  deriving DecidableEq, Repr

structure SidecarRuntimeManifest where
  manifestGeneration : UInt64
  capabilities : List String
  commands : List String
  deriving DecidableEq, Repr

structure SidecarInvocation where
  id : String
  nodeId : String
  command : String
  params : Json.Value
  timeoutMs : Option UInt64
  idempotencyKey : Option String
  sessionKey : Option String

def SidecarInvocation.ofNode (invocation : NodeInvocation) : SidecarInvocation where
  id := invocation.id
  nodeId := invocation.nodeId
  command := invocation.command
  params := invocation.params
  timeoutMs := invocation.timeoutMs
  idempotencyKey := invocation.idempotencyKey
  sessionKey := invocation.sessionKey

inductive SidecarAdmissionDecision
  | allow
  | deny (code message : String)
  deriving DecidableEq, Repr

inductive SidecarInvocationResult
  | success (payload : Json.Value)
  | failure (code message : String)

/-- What a handler returns for the result of an adapter. -/
def SidecarInvocationResult.toHandlerResult :
    SidecarInvocationResult → Except HandlerError Json.Value
  | .success payload => .ok payload
  | .failure code message => .error ⟨code, message⟩

inductive SidecarRuntimeState
  | configured
  | connecting
  | ready
  | backingOff
  | paused
  | draining
  | stopped
  deriving DecidableEq, Repr

inductive SidecarRuntimeReason
  | transport
  | gateway
  | requestTimeout
  | eventLagged
  | activation
  | deliverySaturated
  | resultTask
  | runtimeEnded
  | shutdown
  | pairing
  | authentication
  | protocol
  | configuration
  | identity
  deriving DecidableEq, Repr

structure SidecarRuntimeStatus where
  state : SidecarRuntimeState
  manifestGeneration : UInt64
  runtimeVersion : String
  attempt : UInt64
  reason : Option SidecarRuntimeReason
  deriving DecidableEq, Repr

inductive SidecarRuntimeMessage
  | configure (configuration : SidecarRuntimeConfiguration)
  | configured (manifest : SidecarRuntimeManifest)
  | admissionRequest (invocation : SidecarInvocation)
  | admissionDecision (invocationId : String) (decision : SidecarAdmissionDecision)
  | invoke (invocation : SidecarInvocation)
  | result (invocationId : String) (result : SidecarInvocationResult)
  | cancel (invocationId : String)
  | status (status : SidecarRuntimeStatus)

/-- An integer outside the portable range fails the whole message. -/
def serializePortableU64 (value : UInt64) : Serialization :=
  if maxPortableJsonInteger < value then .fail else nat value.toNat

def serializePortableOptionalU64 (value : Option UInt64) : Serialization :=
  if value.any (maxPortableJsonInteger < ·) then .fail else optional (nat ·.toNat) value

def SidecarRuntimeConfiguration.serialize (c : SidecarRuntimeConfiguration) : Serialization :=
  object [
    ("manifestGeneration", serializePortableU64 c.manifestGeneration),
    ("capabilities", array (c.capabilities.map string)),
    ("commands", array (c.commands.map fun command => object [("name", string command.name)])),
    ("maxConcurrency", nat c.maxConcurrency.toNat),
    ("maxInputBytes", nat c.maxInputBytes.toNat),
    ("maxOutputBytes", nat c.maxOutputBytes.toNat),
    ("defaultTimeoutMs", nat c.defaultTimeoutMs.toNat),
    ("maxTimeoutMs", nat c.maxTimeoutMs.toNat),
    ("resultGraceMs", nat c.resultGraceMs.toNat)]

def SidecarRuntimeManifest.serialize (m : SidecarRuntimeManifest) : Serialization :=
  object [
    ("manifestGeneration", serializePortableU64 m.manifestGeneration),
    ("capabilities", array (m.capabilities.map string)),
    ("commands", array (m.commands.map string))]

def SidecarAdmissionDecision.serialize : SidecarAdmissionDecision → Serialization
  | .allow => object [("outcome", string "allow")]
  | .deny code message =>
    object [("outcome", string "deny"), ("code", string code), ("message", string message)]

def SidecarRuntimeState.name : SidecarRuntimeState → String
  | .configured => "configured"
  | .connecting => "connecting"
  | .ready => "ready"
  | .backingOff => "backing-off"
  | .paused => "paused"
  | .draining => "draining"
  | .stopped => "stopped"

def SidecarRuntimeReason.name : SidecarRuntimeReason → String
  | .transport => "transport"
  | .gateway => "gateway"
  | .requestTimeout => "request-timeout"
  | .eventLagged => "event-lagged"
  | .activation => "activation"
  | .deliverySaturated => "delivery-saturated"
  | .resultTask => "result-task"
  | .runtimeEnded => "runtime-ended"
  | .shutdown => "shutdown"
  | .pairing => "pairing"
  | .authentication => "authentication"
  | .protocol => "protocol"
  | .configuration => "configuration"
  | .identity => "identity"

def SidecarRuntimeStatus.serialize (s : SidecarRuntimeStatus) : Serialization :=
  object [
    ("state", string s.state.name),
    ("manifestGeneration", serializePortableU64 s.manifestGeneration),
    ("runtimeVersion", string s.runtimeVersion),
    ("attempt", serializePortableU64 s.attempt),
    ("reason", optional (string ·.name) s.reason)]

section

variable (formatDouble : Json.Double → String)

def serializePortableValue (value : Json.Value) : Serialization :=
  if portableJsonValue value then value.serialize formatDouble else .fail

def SidecarInvocation.serialize (invocation : SidecarInvocation) : Serialization :=
  object [
    ("id", string invocation.id),
    ("nodeId", string invocation.nodeId),
    ("command", string invocation.command),
    ("params", serializePortableValue formatDouble invocation.params),
    ("timeoutMs", serializePortableOptionalU64 invocation.timeoutMs),
    ("idempotencyKey", optional string invocation.idempotencyKey),
    ("sessionKey", optional string invocation.sessionKey)]

def SidecarInvocationResult.serialize : SidecarInvocationResult → Serialization
  | .success payload =>
    object [("outcome", string "success"), ("payload", serializePortableValue formatDouble payload)]
  | .failure code message =>
    object [("outcome", string "failure"), ("code", string code), ("message", string message)]

/-- The message as an object that starts with its `type` tag. -/
def SidecarRuntimeMessage.serialize : SidecarRuntimeMessage → Serialization
  | .configure configuration =>
    object [("type", string "configure"), ("configuration", configuration.serialize)]
  | .configured manifest =>
    object [("type", string "configured"), ("manifest", manifest.serialize)]
  | .admissionRequest invocation =>
    object [("type", string "admission-request"),
      ("invocation", invocation.serialize formatDouble)]
  | .admissionDecision invocationId decision =>
    object [("type", string "admission-decision"), ("invocationId", string invocationId),
      ("decision", decision.serialize)]
  | .invoke invocation =>
    object [("type", string "invoke"), ("invocation", invocation.serialize formatDouble)]
  | .result invocationId outcome =>
    object [("type", string "result"), ("invocationId", string invocationId),
      ("result", outcome.serialize formatDouble)]
  | .cancel invocationId =>
    object [("type", string "cancel"), ("invocationId", string invocationId)]
  | .status current =>
    object [("type", string "status"), ("status", current.serialize)]

end

/-- The runtime messages as the serializer writes them, with any reader. -/
def runtimeCodec (formatDouble : Json.Double → String)
    (deserialize : BigEndian.Bytes → Option SidecarRuntimeMessage) :
    BoundedWriter.Codec SidecarRuntimeMessage where
  serialize := SidecarRuntimeMessage.serialize formatDouble
  deserialize := deserialize

theorem failed_serializePortableU64 {value : UInt64} :
    (serializePortableU64 value).failed = false ↔ value ≤ maxPortableJsonInteger := by
  unfold serializePortableU64
  split
  · next h => simpa using UInt64.not_le.mpr h
  · next h => simpa [Json.nat] using UInt64.not_lt.mp h

/-- Counts the bytes of a message against the payload limit. -/
structure PayloadSizeLimiter where
  written : Nat
  limit : Nat
  deriving DecidableEq, Repr

def PayloadSizeLimiter.write (w : PayloadSizeLimiter) (bytes : BigEndian.Bytes) :
    Option PayloadSizeLimiter :=
  let remaining := w.limit - w.written
  if bytes.length > remaining then none
  else some { w with written := w.written + bytes.length }

/-- Whether a message can be written in full within the limit. -/
def runtimeMessageWithinLimit (message : Serialization) (limit : Nat) : Bool :=
  match BoundedWriter.toWriter PayloadSizeLimiter.write ⟨0, limit⟩ message with
  | .done _ => true
  | _ => false

end OpenclawNode.Sidecar
