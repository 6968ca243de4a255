import OpenclawNode.Base.InPlace
import OpenclawNode.Sidecar.FrameGrammar

/-! A channel over all the calls that are made of it: what is sealed, and how its limits move. -/
namespace OpenclawNode.Sidecar

open BigEndian (Bytes)
open BoundedWriter (Serialization)
open Except (ensure)
open InPlace (Update check committed)
open Text (utf8)
open Transition (System)
open FixedWidth (checkedSucc)

namespace AuthenticatedSidecarChannel

variable {mac : Mac} {ch ch' : AuthenticatedSidecarChannel} {payload : Serialization}

/-- `seal` as it writes the channel: the sequence number, after everything that can fail. -/
def sealInPlace (mac : Mac) (payload : Serialization) :
    Update AuthenticatedSidecarChannel SidecarFrameError Bytes := do
  let ch ← get
  check (ensure (ch.retired = false) .channelRetired)
  let sequence ← check ((checkedSucc ch.sendSequence).elim (.error .sequenceExhausted) .ok)
  let sessionId := utf8 ch.sessionId
  let minimumCapacity := fixedHeaderBytes + sessionId.length + authTagBytes
  check (ensure (minimumCapacity < ch.maxFrameBytes.toNat)
    (.frameTooLarge (UInt64.ofNat (minimumCapacity + 1)) ch.maxFrameBytes))
  check (ensure (sessionId.length < 65536) .invalidSessionId)
  let header := ch.frameHeader sequence
  let frame ← check (ch.writePayload header payload)
  let payloadLen := frame.length - header.length
  check (ensure (payloadLen < 4294967296) (.frameTooLarge 18446744073709551615 ch.maxFrameBytes))
  let frame := patch frame payloadLengthOffset (be32 (UInt32.ofNat payloadLen))
  modify fun ch => { ch with sendSequence := sequence }
  return mac.frame ch.key frame

/-- `lower_frame_limit` as it writes the channel. -/
def lowerFrameLimitInPlace (negotiated : UInt32) :
    Update AuthenticatedSidecarChannel SidecarProtocolError Unit := do
  let ch ← get
  check (ensure (ch.frameLimitLocked = false) .frameLimitLocked)
  if hf : minimumFrameBytes (utf8 ch.sessionId).length ≤ negotiated.toNat then
    check (ensure (¬ ch.maxFrameBytes < negotiated) (.limitIncrease ch.maxFrameBytes negotiated))
    set { ch with maxFrameBytes := negotiated, frame_fits := hf }
  else check (.error (.invalidLimit "maxFrameBytes"))

/-- `apply_negotiated_protocol` as it writes the channel: first the ceiling, then the minor. -/
def applyNegotiatedProtocolInPlace (negotiated : NegotiatedSidecarProtocol) :
    Update AuthenticatedSidecarChannel SidecarProtocolError Unit := do
  check (ensure (negotiated.protocolMajor = sidecarProtocolMajor)
    (.unsupportedMajor sidecarProtocolMajor negotiated.protocolMajor))
  check (ensure (¬ sidecarProtocolMinor < negotiated.protocolMinor)
    (.unsupportedLocalMinor negotiated.protocolMinor))
  lowerFrameLimitInPlace negotiated.limits.maxFrameBytes
  modify fun ch => { ch with protocolMinor := negotiated.protocolMinor }

theorem sealInPlace_eq (mac : Mac) (ch : AuthenticatedSidecarChannel) (payload : Serialization) :
    InPlace.run (sealInPlace mac payload) ch = committed (ch.seal mac payload) ch := by
  unfold sealInPlace AuthenticatedSidecarChannel.seal
  rw [InPlace.run_get_bind]
  refine InPlace.run_check_bind fun _ _ => ?_
  refine InPlace.run_check_bind fun sequence _ => ?_
  refine InPlace.run_check_bind fun _ _ => ?_
  refine InPlace.run_check_bind fun _ _ => ?_
  refine InPlace.run_check_bind fun frame _ => ?_
  exact InPlace.run_check_bind fun _ _ => rfl

theorem lowerFrameLimitInPlace_eq (ch : AuthenticatedSidecarChannel) (negotiated : UInt32) :
    InPlace.run (lowerFrameLimitInPlace negotiated) ch =
      committed ((ch.lowerFrameLimit negotiated).map fun ch' => ((), ch')) ch := by
  unfold lowerFrameLimitInPlace lowerFrameLimit
  rw [InPlace.run_get_bind]
  by_cases hl : ch.frameLimitLocked
  · simp only [hl]
    rfl
  · by_cases hf : minimumFrameBytes (utf8 ch.sessionId).length ≤ negotiated.toNat
    · by_cases hm : ch.maxFrameBytes < negotiated
      · simp only [hl, hf, hm]
        rfl
      · simp only [hl, hf, hm]
        rfl
    · simp only [hl, hf]
      rfl

theorem applyNegotiatedProtocolInPlace_eq (ch : AuthenticatedSidecarChannel)
    (negotiated : NegotiatedSidecarProtocol) :
    InPlace.run (applyNegotiatedProtocolInPlace negotiated) ch =
      committed ((ch.applyNegotiatedProtocol negotiated).map fun ch' => ((), ch')) ch := by
  unfold applyNegotiatedProtocolInPlace applyNegotiatedProtocol
  rw [InPlace.map_bind]
  refine InPlace.run_check_bind fun _ _ => ?_
  rw [InPlace.map_bind]
  refine InPlace.run_check_bind fun _ _ => ?_
  rw [InPlace.map_bind, InPlace.run_bind, lowerFrameLimitInPlace_eq]
  cases ch.lowerFrameLimit negotiated.limits.maxFrameBytes <;> rfl

end AuthenticatedSidecarChannel

inductive ChannelAction
  | sealPayload (payload : Serialization)
  | openFrame (frame : Bytes)
  | retire
  | lowerFrameLimit (negotiated : UInt32)
  | applyNegotiatedProtocol (negotiated : NegotiatedSidecarProtocol)
  | lockFrameLimit

/-- The calls on one channel. Each frame may be opened for a message of any type. -/
inductive ChannelStep (mac : Mac) :
    AuthenticatedSidecarChannel → ChannelAction → AuthenticatedSidecarChannel → Prop
  | sealPayload {ch} (payload : Serialization) : ChannelStep mac ch (.sealPayload payload)
      (InPlace.run (AuthenticatedSidecarChannel.sealInPlace mac payload) ch).2
  | openFrame {ch} {α : Type} (decode : Bytes → Option α) (frame : Bytes) :
      ChannelStep mac ch (.openFrame frame) (ch.open mac decode frame).2
  | retire {ch} : ChannelStep mac ch .retire ch.retire
  | lowerFrameLimit {ch} (negotiated : UInt32) : ChannelStep mac ch (.lowerFrameLimit negotiated)
      (InPlace.run (AuthenticatedSidecarChannel.lowerFrameLimitInPlace negotiated) ch).2
  | applyNegotiatedProtocol {ch} (negotiated : NegotiatedSidecarProtocol) :
      ChannelStep mac ch (.applyNegotiatedProtocol negotiated)
        (InPlace.run (AuthenticatedSidecarChannel.applyNegotiatedProtocolInPlace negotiated) ch).2
  | lockFrameLimit {ch} : ChannelStep mac ch .lockFrameLimit ch.lockFrameLimit

def channelSystem (mac : Mac) : System AuthenticatedSidecarChannel ChannelAction where
  Initial ch := ∃ counter role sessionId generation key maxFrameBytes next,
    AuthenticatedSidecarChannel.new counter role sessionId generation key maxFrameBytes =
      .ok (ch, next)
  Step := ChannelStep mac

/-- How the ceiling of a channel may move: down, and not at all once it is locked. -/
structure LimitsFollow (ch ch' : AuthenticatedSidecarChannel) : Prop where
  lowered : ch'.maxFrameBytes.toNat ≤ ch.maxFrameBytes.toNat
  locked : ch.frameLimitLocked = true →
    ch'.frameLimitLocked = true ∧ ch'.maxFrameBytes = ch.maxFrameBytes

variable {mac : Mac} {ch ch' ch'' : AuthenticatedSidecarChannel}

theorem LimitsFollow.refl (ch : AuthenticatedSidecarChannel) : LimitsFollow ch ch :=
  ⟨le_rfl, fun h => ⟨h, rfl⟩⟩

theorem LimitsFollow.trans (h : LimitsFollow ch ch') (h' : LimitsFollow ch' ch'') :
    LimitsFollow ch ch'' := by
  refine ⟨h'.lowered.trans h.lowered, fun hl => ?_⟩
  obtain ⟨hl', hm⟩ := h.locked hl
  obtain ⟨hl'', hm'⟩ := h'.locked hl'
  exact ⟨hl'', hm'.trans hm⟩

/-- A call that commits only on success moves the ceiling as its success does. -/
theorem LimitsFollow.committed {ε α : Type} {x : Except ε (α × AuthenticatedSidecarChannel)}
    (h : ∀ a ch', x = .ok (a, ch') → LimitsFollow ch ch') : LimitsFollow ch (committed x ch).2 := by
  cases x with
  | error e => exact .refl ch
  | ok r => exact h r.1 r.2 rfl

theorem LimitsFollow.step {a : ChannelAction} (hs : ChannelStep mac ch a ch') :
    LimitsFollow ch ch' := by
  cases hs with
  | sealPayload payload =>
    rw [AuthenticatedSidecarChannel.sealInPlace_eq]
    refine .committed fun frame ch' h => ?_
    obtain ⟨-, -, -, -, -, rfl⟩ := AuthenticatedSidecarChannel.seal_eq_ok.mp h
    exact ⟨le_rfl, fun h => ⟨h, rfl⟩⟩
  | openFrame decode frame =>
    obtain ⟨-, ho⟩ | ⟨-, payload, decoded, -, -, ho⟩ | ⟨-, error, ho⟩ :=
      AuthenticatedSidecarChannel.open_cases mac decode ch frame <;> rw [ho]
    · exact .refl ch
    · exact ⟨le_rfl, fun h => ⟨h, rfl⟩⟩
    · exact ⟨le_rfl, fun h => ⟨h, rfl⟩⟩
  | retire => exact ⟨le_rfl, fun h => ⟨h, rfl⟩⟩
  | lowerFrameLimit negotiated =>
    rw [AuthenticatedSidecarChannel.lowerFrameLimitInPlace_eq]
    refine .committed fun _ ch' h => ?_
    obtain ⟨lowered, hl, he⟩ := Except.map_eq_ok.mp h
    cases he
    obtain ⟨hunlocked, hle, hf, rfl⟩ := AuthenticatedSidecarChannel.lowerFrameLimit_eq_ok hl
    exact ⟨hle, fun hl => absurd hl (by simp [hunlocked])⟩
  | applyNegotiatedProtocol negotiated =>
    rw [AuthenticatedSidecarChannel.applyNegotiatedProtocolInPlace_eq]
    refine .committed fun _ ch' h => ?_
    obtain ⟨lowered, hl, he⟩ := Except.map_eq_ok.mp h
    cases he
    obtain ⟨hunlocked, hle, hf, rfl⟩ :=
      AuthenticatedSidecarChannel.applyNegotiatedProtocol_eq_ok hl
    exact ⟨hle, fun hl => absurd hl (by simp [hunlocked])⟩
  | lockFrameLimit => exact ⟨le_rfl, fun h => ⟨rfl, rfl⟩⟩

theorem LimitsFollow.run (h : (channelSystem mac).Run ch ch') : LimitsFollow ch ch' :=
  h.relates LimitsFollow.refl (fun _ _ _ => LimitsFollow.trans) fun _ _ _ => LimitsFollow.step

namespace AuthenticatedSidecarChannel

/-- A channel seals exactly what fits while it is live and has a number left, a call that fails
leaves it as it is, and its ceiling holds a frame of one payload byte and only ever comes down. -/
theorem seals_exactly_within_limits (mac : Mac) (ch : AuthenticatedSidecarChannel) :
    (∀ payload frame ch', InPlace.run (sealInPlace mac payload) ch = (.ok frame, ch') ↔
      ch.retired = false ∧ ch.sendSequence.toNat < 2 ^ 64 - 1 ∧ payload.failed = false ∧
      payload.output.length ≤ ch.maxPayloadBytes ∧
      frame = mac.frame ch.key (ch.body (ch.sendSequence + 1) payload.output) ∧
      ch' = { ch with sendSequence := ch.sendSequence + 1 }) ∧
    (∀ payload frame ch', InPlace.run (sealInPlace mac payload) ch = (.ok frame, ch') →
      frame.length =
        fixedHeaderBytes + (utf8 ch.sessionId).length + payload.output.length + authTagBytes ∧
      frame.length ≤ ch.maxFrameBytes.toNat) ∧
    (∀ payload error ch', InPlace.run (sealInPlace mac payload) ch = (.error error, ch') →
      ch' = ch) ∧
    minimumFrameBytes (utf8 ch.sessionId).length ≤ ch.maxFrameBytes.toNat ∧
    ch.maxPayloadBytes + fixedHeaderBytes + (utf8 ch.sessionId).length + authTagBytes =
      ch.maxFrameBytes.toNat ∧
    1 ≤ ch.maxPayloadBytes ∧
    (∀ ch', (channelSystem mac).Run ch ch' →
      ch'.maxFrameBytes.toNat ≤ ch.maxFrameBytes.toNat ∧
      (ch.frameLimitLocked = true → ch'.maxFrameBytes = ch.maxFrameBytes)) ∧
    (∀ negotiated error ch', InPlace.run (lowerFrameLimitInPlace negotiated) ch =
      (.error error, ch') → ch' = ch) ∧
    (∀ negotiated error ch', InPlace.run (applyNegotiatedProtocolInPlace negotiated) ch =
      (.error error, ch') → ch' = ch) := by
  have hbudget := ch.maxPayloadBytes_add
  refine ⟨fun payload frame ch' => ?_, fun payload frame ch' h => ?_, fun payload error ch' h => ?_,
    ch.frame_fits, hbudget.1, hbudget.2, fun ch' h => ?_, fun negotiated error ch' h => ?_,
    fun negotiated error ch' h => ?_⟩
  · have hroom : ch.sendSequence.toNat < 2 ^ 64 - 1 ↔ ch.sendSequence.toNat + 1 < 2 ^ 64 := by
      omega
    rw [sealInPlace_eq, InPlace.committed_eq_ok, seal_eq_ok, hroom]
  · rw [sealInPlace_eq, InPlace.committed_eq_ok, seal_eq_ok] at h
    obtain ⟨-, -, -, hfit, rfl, -⟩ := h
    rw [Mac.length_frame, length_body]
    exact ⟨rfl, by omega⟩
  · rw [sealInPlace_eq, InPlace.committed_eq_error] at h
    exact h.2
  · have hfollow := LimitsFollow.run h
    exact ⟨hfollow.lowered, fun hl => (hfollow.locked hl).2⟩
  · rw [lowerFrameLimitInPlace_eq, InPlace.committed_eq_error] at h
    exact h.2
  · rw [applyNegotiatedProtocolInPlace_eq, InPlace.committed_eq_error] at h
    exact h.2

end AuthenticatedSidecarChannel
end OpenclawNode.Sidecar
