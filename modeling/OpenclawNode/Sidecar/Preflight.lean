import OpenclawNode.Sidecar.ChannelFacts
import OpenclawNode.Sidecar.HandshakeAgreement
import OpenclawNode.Sidecar.Messages

/-! What the bridge checks before native work, and that sealing agrees with it. -/
namespace OpenclawNode.Sidecar

open BigEndian (Bytes)
open BoundedWriter (Serialization Bounded feed toWriter)
open Json (string optional object)
open Node (NodeInvocation)

/-- An invocation whose fields are only borrowed. -/
structure SidecarInvocationRef where
  id : String
  nodeId : String
  command : String
  params : Json.Value
  timeoutMs : Option UInt64
  idempotencyKey : Option String
  sessionKey : Option String

def SidecarInvocationRef.ofNode (invocation : NodeInvocation) : SidecarInvocationRef where
  id := invocation.id
  nodeId := invocation.nodeId
  command := invocation.command
  params := invocation.params
  timeoutMs := invocation.timeoutMs
  idempotencyKey := invocation.idempotencyKey
  sessionKey := invocation.sessionKey

/-- The messages whose size is checked before they are sent. -/
inductive SidecarRuntimeMessageRef
  | admissionRequest (invocation : SidecarInvocationRef)
  | admissionDecision (invocationId : String) (decision : SidecarAdmissionDecision)
  | invoke (invocation : SidecarInvocationRef)
  | result (invocationId : String) (result : SidecarInvocationResult)

section

variable (formatDouble : Json.Double → String)

def SidecarInvocationRef.serialize (invocation : SidecarInvocationRef) : Serialization :=
  object [
    ("id", string invocation.id),
    ("nodeId", string invocation.nodeId),
    ("command", string invocation.command),
    ("params", serializePortableValue formatDouble invocation.params),
    ("timeoutMs", serializePortableOptionalU64 invocation.timeoutMs),
    ("idempotencyKey", optional string invocation.idempotencyKey),
    ("sessionKey", optional string invocation.sessionKey)]

def SidecarRuntimeMessageRef.serialize : SidecarRuntimeMessageRef → Serialization
  | .admissionRequest invocation =>
    object [("type", string "admission-request"),
      ("invocation", invocation.serialize formatDouble)]
  | .admissionDecision invocationId decision =>
    object [("type", string "admission-decision"), ("invocationId", string invocationId),
      ("decision", decision.serialize)]
  | .invoke invocation =>
    object [("type", string "invoke"), ("invocation", invocation.serialize formatDouble)]
  | .result invocationId outcome =>
    object [("type", string "result"), ("invocationId", string invocationId),
      ("result", outcome.serialize formatDouble)]

def SidecarRuntimeMessageRef.withinLimit (message : SidecarRuntimeMessageRef) (limit : Nat) :
    Bool :=
  runtimeMessageWithinLimit (message.serialize formatDouble) limit

end

def nodeInvocationIsPortable (invocation : NodeInvocation) : Bool :=
  invocation.timeoutMs.all (· ≤ maxPortableJsonInteger) && portableJsonValue invocation.params

def invocationResultIsPortable : SidecarInvocationResult → Bool
  | .success payload => portableJsonValue payload
  | .failure _ _ => true

/-- The owned message that a checked message becomes on the wire. -/
def SidecarRuntimeMessageRef.toOwned : SidecarRuntimeMessageRef → SidecarRuntimeMessage
  | .admissionRequest i =>
    .admissionRequest ⟨i.id, i.nodeId, i.command, i.params, i.timeoutMs, i.idempotencyKey,
      i.sessionKey⟩
  | .admissionDecision invocationId decision => .admissionDecision invocationId decision
  | .invoke i =>
    .invoke ⟨i.id, i.nodeId, i.command, i.params, i.timeoutMs, i.idempotencyKey, i.sessionKey⟩
  | .result invocationId outcome => .result invocationId outcome

section

variable {formatDouble : Json.Double → String}

/-- The two type hierarchies make the same writes. -/
theorem serialize_toOwned (message : SidecarRuntimeMessageRef) :
    message.toOwned.serialize formatDouble = message.serialize formatDouble := by
  cases message <;> rfl

/-- The counting writer takes a write exactly when it fits the limit. -/
def payloadSizeLimiter : Bounded PayloadSizeLimiter.write where
  room w := w.limit - w.written
  extend w bytes := { w with written := w.written + bytes.length }
  write_fits := by
    intro w bytes h
    have hl : ¬ bytes.length > w.limit - w.written := by omega
    simp [PayloadSizeLimiter.write, hl]
  write_full := by
    intro w bytes h
    simp [PayloadSizeLimiter.write, h]
  room_extend := by
    intro w bytes h
    simp only
    omega
  extend_nil := by
    intro w
    simp
  extend_extend := by
    intro w a b
    simp [Nat.add_assoc]

theorem runtimeMessageWithinLimit_iff {message : Serialization} {limit : Nat} :
    runtimeMessageWithinLimit message limit = true ↔
      message.failed = false ∧ message.output.length ≤ limit := by
  unfold runtimeMessageWithinLimit
  rw [payloadSizeLimiter.toWriter_eq]
  simp only [payloadSizeLimiter, Nat.sub_zero]
  by_cases hl : message.output.length ≤ limit
  · by_cases hf : message.failed <;> simp [hl, hf]
  · simp [hl]

theorem failed_optional_string (s : Option String) : (optional string s).failed = false := by
  cases s with
  | none => rfl
  | some s => exact Json.failed_string s

theorem failed_serializePortableValue (value : Json.Value) :
    (serializePortableValue formatDouble value).failed = !portableJsonValue value := by
  unfold serializePortableValue
  by_cases hp : portableJsonValue value
  · simp [hp, Json.Value.failed_serialize]
  · simp [hp]

theorem failed_serializePortableOptionalU64 (value : Option UInt64) :
    (serializePortableOptionalU64 value).failed = !value.all (· ≤ maxPortableJsonInteger) := by
  cases value with
  | none => rfl
  | some n =>
    by_cases hn : maxPortableJsonInteger < n
    · have hle : ¬ n ≤ maxPortableJsonInteger := by simpa using hn
      simp [serializePortableOptionalU64, hn, hle]
    · have hle : n ≤ maxPortableJsonInteger := by simpa using hn
      simp [serializePortableOptionalU64, hn, hle, Json.optional, Json.nat]

/-- Serializing an invocation fails exactly when the check up front refuses it. -/
theorem failed_serialize_invocation (invocation : NodeInvocation) :
    ((SidecarInvocationRef.ofNode invocation).serialize formatDouble).failed =
      !nodeInvocationIsPortable invocation := by
  simp [SidecarInvocationRef.serialize, SidecarInvocationRef.ofNode, nodeInvocationIsPortable,
    Json.failed_object, failed_serializePortableValue, failed_serializePortableOptionalU64,
    failed_optional_string, Bool.or_comm]

theorem failed_serialize_decision (decision : SidecarAdmissionDecision) :
    decision.serialize.failed = false := by
  cases decision <;> simp [SidecarAdmissionDecision.serialize, Json.failed_object]

theorem failed_serialize_result (outcome : SidecarInvocationResult) :
    (outcome.serialize formatDouble).failed = !invocationResultIsPortable outcome := by
  cases outcome <;>
    simp [SidecarInvocationResult.serialize, invocationResultIsPortable, Json.failed_object,
      failed_serializePortableValue]

theorem failed_admissionRequest (invocation : NodeInvocation) :
    ((SidecarRuntimeMessageRef.admissionRequest (.ofNode invocation)).serialize formatDouble).failed
      = !nodeInvocationIsPortable invocation := by
  simp [SidecarRuntimeMessageRef.serialize, Json.failed_object, failed_serialize_invocation]

theorem failed_invoke (invocation : NodeInvocation) :
    ((SidecarRuntimeMessageRef.invoke (.ofNode invocation)).serialize formatDouble).failed
      = !nodeInvocationIsPortable invocation := by
  simp [SidecarRuntimeMessageRef.serialize, Json.failed_object, failed_serialize_invocation]

theorem failed_admissionDecision (invocationId : String) (decision : SidecarAdmissionDecision) :
    ((SidecarRuntimeMessageRef.admissionDecision invocationId decision).serialize
      formatDouble).failed = false := by
  simp [SidecarRuntimeMessageRef.serialize, Json.failed_object, failed_serialize_decision]

theorem failed_result (invocationId : String) (outcome : SidecarInvocationResult) :
    ((SidecarRuntimeMessageRef.result invocationId outcome).serialize formatDouble).failed =
      !invocationResultIsPortable outcome := by
  simp [SidecarRuntimeMessageRef.serialize, Json.failed_object, failed_serialize_result]

end

/-- Sealing the message on the channel succeeds. -/
def AuthenticatedSidecarChannel.Seals (mac : Mac) (ch : AuthenticatedSidecarChannel)
    (payload : Serialization) : Prop :=
  ∃ frame ch', ch.seal mac payload = .ok (frame, ch')

theorem AuthenticatedSidecarChannel.seals_iff {mac : Mac} {ch : AuthenticatedSidecarChannel}
    {payload : Serialization} (hlive : ch.retired = false)
    (hroom : ch.sendSequence.toNat + 1 < 2 ^ 64) :
    ch.Seals mac payload ↔
      payload.failed = false ∧ payload.output.length ≤ ch.maxPayloadBytes := by
  constructor
  · rintro ⟨frame, ch', hs⟩
    obtain ⟨-, -, hok, hfit, -, -⟩ := seal_eq_ok.mp hs
    exact ⟨hok, hfit⟩
  · rintro ⟨hok, hfit⟩
    exact ⟨_, _, seal_eq_ok.mpr ⟨hlive, hroom, hok, hfit, rfl, rfl⟩⟩

/-- The size check on a message is the verdict of sealing it, given that the portability check
refuses exactly what fails to serialize. -/
theorem withinLimit_iff_seals (mac : Mac) {formatDouble : Json.Double → String}
    {ch : AuthenticatedSidecarChannel} {message : SidecarRuntimeMessageRef} {portable : Bool}
    (hlive : ch.retired = false) (hroom : ch.sendSequence.toNat + 1 < 2 ^ 64)
    (hp : (message.serialize formatDouble).failed = !portable) :
    (portable = true ∧ message.withinLimit formatDouble ch.maxPayloadBytes = true) ↔
      ch.Seals mac (message.toOwned.serialize formatDouble) := by
  rw [serialize_toOwned, AuthenticatedSidecarChannel.seals_iff hlive hroom,
    SidecarRuntimeMessageRef.withinLimit, runtimeMessageWithinLimit_iff, hp]
  simp

/-- A writer accepts a sequence of writes exactly when their total length fits. -/
theorem feed_isSome_iff {W : Type*} {write : W → Bytes → Option W} (B : Bounded write) (w : W)
    (chunks : List Bytes) :
    (feed write w chunks).isSome ↔ (chunks.map List.length).sum ≤ B.room w := by
  rw [B.feed_eq, ← List.length_flatten]
  split <;> simp_all

theorem runtimeMessageWithinLimit_congr {s t : Serialization} {limit : Nat}
    (ho : s.output = t.output) (hf : s.failed = t.failed) :
    runtimeMessageWithinLimit s limit = runtimeMessageWithinLimit t limit := by
  rw [runtimeMessageWithinLimit, runtimeMessageWithinLimit,
    payloadSizeLimiter.toWriter_congr ho hf]

/-- The frame and the error alike depend on the bytes alone. -/
theorem AuthenticatedSidecarChannel.seal_congr {mac : Mac} {ch : AuthenticatedSidecarChannel}
    {s t : Serialization} (ho : s.output = t.output) (hf : s.failed = t.failed) :
    ch.seal mac s = ch.seal mac t := by
  have hw : ∀ header, ch.writePayload header s = ch.writePayload header t := by
    intro header
    rw [writePayload, writePayload, boundedFrameWriter.toWriter_congr ho hf]
  simp only [AuthenticatedSidecarChannel.seal, hw]

/-- A message passes the checks of the bridge exactly when the owned message can be sealed, the
two are written alike, and how the bytes are split into writes decides nothing. -/
theorem preflight_equals_sealing (mac : Mac) (formatDouble : Json.Double → String)
    {ch : AuthenticatedSidecarChannel} (hlive : ch.retired = false)
    (hroom : ch.sendSequence.toNat + 1 < 2 ^ 64) :
    (∀ invocation : NodeInvocation,
      let request : SidecarRuntimeMessageRef := .admissionRequest (.ofNode invocation)
      let owned : SidecarRuntimeMessage := .admissionRequest (.ofNode invocation)
      ((nodeInvocationIsPortable invocation = true ∧
          request.withinLimit formatDouble ch.maxPayloadBytes = true) ↔
        ch.Seals mac (owned.serialize formatDouble)) ∧
      (request.serialize formatDouble).output = (owned.serialize formatDouble).output) ∧
    (∀ invocation : NodeInvocation,
      let invoke : SidecarRuntimeMessageRef := .invoke (.ofNode invocation)
      let owned : SidecarRuntimeMessage := .invoke (.ofNode invocation)
      ((nodeInvocationIsPortable invocation = true ∧
          invoke.withinLimit formatDouble ch.maxPayloadBytes = true) ↔
        ch.Seals mac (owned.serialize formatDouble)) ∧
      (invoke.serialize formatDouble).output = (owned.serialize formatDouble).output) ∧
    (∀ (invocationId : String) (decision : SidecarAdmissionDecision),
      let answer : SidecarRuntimeMessageRef := .admissionDecision invocationId decision
      let owned : SidecarRuntimeMessage := .admissionDecision invocationId decision
      (answer.withinLimit formatDouble ch.maxPayloadBytes = true ↔
        ch.Seals mac (owned.serialize formatDouble)) ∧
      (answer.serialize formatDouble).output = (owned.serialize formatDouble).output) ∧
    (∀ (invocationId : String) (outcome : SidecarInvocationResult),
      let answer : SidecarRuntimeMessageRef := .result invocationId outcome
      let owned : SidecarRuntimeMessage := .result invocationId outcome
      ((invocationResultIsPortable outcome = true ∧
          answer.withinLimit formatDouble ch.maxPayloadBytes = true) ↔
        ch.Seals mac (owned.serialize formatDouble)) ∧
      (answer.serialize formatDouble).output = (owned.serialize formatDouble).output) ∧
    (∀ (w : PayloadSizeLimiter) (chunks : List Bytes),
      (feed PayloadSizeLimiter.write w chunks).isSome ↔
        (chunks.map List.length).sum ≤ w.limit - w.written) ∧
    (∀ (w : BoundedFrameWriter) (chunks : List Bytes),
      (feed BoundedFrameWriter.write w chunks).isSome ↔
        (chunks.map List.length).sum ≤ w.maxLen - w.frame.length) ∧
    ∀ s t : Serialization, s.output = t.output → s.failed = t.failed →
      (runtimeMessageWithinLimit s ch.maxPayloadBytes =
        runtimeMessageWithinLimit t ch.maxPayloadBytes) ∧ ch.seal mac s = ch.seal mac t := by
  refine ⟨?_, ?_, ?_, ?_, feed_isSome_iff payloadSizeLimiter, feed_isSome_iff boundedFrameWriter,
    ?_⟩
  · intro invocation
    exact ⟨withinLimit_iff_seals mac hlive hroom (failed_admissionRequest invocation), rfl⟩
  · intro invocation
    exact ⟨withinLimit_iff_seals mac hlive hroom (failed_invoke invocation), rfl⟩
  · intro invocationId decision
    have hp : ((SidecarRuntimeMessageRef.admissionDecision invocationId decision).serialize
        formatDouble).failed = !true := failed_admissionDecision invocationId decision
    have h := withinLimit_iff_seals mac hlive hroom hp
    exact ⟨by simpa [SidecarRuntimeMessageRef.toOwned] using h, rfl⟩
  · intro invocationId outcome
    exact ⟨withinLimit_iff_seals mac hlive hroom (failed_result invocationId outcome), rfl⟩
  · intro s t ho hf
    exact ⟨runtimeMessageWithinLimit_congr ho hf,
      AuthenticatedSidecarChannel.seal_congr ho hf⟩

/-- On the channel of the wire vectors an allowing decision passes and is sealed. -/
theorem vector_decision_sealed :
    (SidecarRuntimeMessageRef.admissionDecision "invoke-1" .allow).withinLimit (fun _ => "")
        (vectorChannel .runtime).maxPayloadBytes = true ∧
      (vectorChannel .runtime).Seals vectorMac
        ((SidecarRuntimeMessage.admissionDecision "invoke-1" .allow).serialize fun _ => "") := by
  have hfits : (SidecarRuntimeMessageRef.admissionDecision "invoke-1" .allow).withinLimit
      (fun _ => "") (vectorChannel .runtime).maxPayloadBytes = true := by
    decide +kernel
  obtain ⟨-, -, hdecision, -⟩ := preflight_equals_sealing vectorMac (fun _ => "")
    (show (vectorChannel .runtime).retired = false from rfl) (by decide)
  exact ⟨hfits, (hdecision "invoke-1" .allow).1.mp hfits⟩

end OpenclawNode.Sidecar
