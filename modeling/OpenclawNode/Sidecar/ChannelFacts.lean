import OpenclawNode.Sidecar.Channel

/-! What sealing and opening do, stated once: later proofs cite these and unfold neither. -/
namespace OpenclawNode.Sidecar

open BigEndian (Bytes)
open Text (utf8)
open BoundedWriter (Serialization Bounded)
open FixedWidth (checkedSucc checkedSucc_eq_some)

/-- The sealing writer takes a write exactly when it fits before the tag. -/
def boundedFrameWriter : Bounded BoundedFrameWriter.write where
  room w := w.maxLen - w.frame.length
  extend w bytes := { w with frame := w.frame ++ bytes }
  write_fits := by
    intro w bytes h
    have hl : ¬ bytes.length > w.maxLen - w.frame.length := by omega
    simp [BoundedFrameWriter.write, hl]
  write_full := by
    intro w bytes h
    simp [BoundedFrameWriter.write, h]
  room_extend := by
    intro w bytes h
    simp only [List.length_append]
    omega
  extend_nil := by
    intro w
    simp
  extend_extend := by
    intro w a b
    simp

theorem patch_append {a x y b : Bytes} {offset : Nat} (ha : a.length = offset)
    (hx : x.length = y.length) : patch (a ++ x ++ b) offset y = a ++ y ++ b := by
  subst ha
  have ht : (a ++ x ++ b).take a.length = a := by simp
  have hd : (a ++ x ++ b).drop (a.length + y.length) = b := by
    rw [← hx, ← List.length_append, List.drop_left]
  rw [patch, ht, hd]

namespace AuthenticatedSidecarChannel

variable {mac : Mac} {ch ch' : AuthenticatedSidecarChannel} {payload : Serialization}
  {frame : Bytes}

/-- The bytes a channel authenticates for a payload under a sequence number. -/
def body (ch : AuthenticatedSidecarChannel) (sequence : UInt64) (payload : Bytes) : Bytes :=
  frameBody ch.protocolMinor ch.role.outgoingDirection ch.generation sequence
    (utf8 ch.sessionId) payload

theorem length_body (sequence : UInt64) (payload : Bytes) :
    (ch.body sequence payload).length =
      fixedHeaderBytes + (utf8 ch.sessionId).length + payload.length :=
  length_frameBody _ _ _ _ _ _

/-- The payload budget never underflows and is at least one byte. -/
theorem maxPayloadBytes_add :
    ch.maxPayloadBytes + fixedHeaderBytes + (utf8 ch.sessionId).length + authTagBytes =
      ch.maxFrameBytes.toNat ∧ 1 ≤ ch.maxPayloadBytes := by
  have hf := ch.frame_fits
  unfold minimumFrameBytes at hf
  unfold maxPayloadBytes
  omega

theorem checkedSucc_elim_eq_ok {n m : UInt64} {error : SidecarFrameError} :
    (checkedSucc n).elim (Except.error error) Except.ok = .ok m ↔
      n.toNat + 1 < 2 ^ 64 ∧ m = n + 1 := by
  rw [Except.elim_eq_ok, checkedSucc_eq_some]

theorem writePayload_eq_ok {header written : Bytes} : ch.writePayload header payload = .ok written ↔
    payload.failed = false ∧
      payload.output.length ≤ ch.maxFrameBytes.toNat - authTagBytes - header.length ∧
      written = header ++ payload.output := by
  unfold writePayload
  rw [boundedFrameWriter.toWriter_eq]
  simp only [boundedFrameWriter]
  by_cases hl : payload.output.length ≤ ch.maxFrameBytes.toNat - authTagBytes - header.length
  · by_cases hf : payload.failed <;> simp [hl, hf, eq_comm]
  · simp [hl]

theorem length_frameHeader (sequence : UInt64) :
    (ch.frameHeader sequence).length = fixedHeaderBytes + (utf8 ch.sessionId).length := by
  simp [frameHeader, frameMagic, fixedHeaderBytes]
  omega

/-- Patching the payload length into the header and payload gives the authenticated body. -/
theorem patch_frameHeader (sequence : UInt64) (bytes : Bytes) :
    patch (ch.frameHeader sequence ++ bytes) payloadLengthOffset
      (be32 (UInt32.ofNat bytes.length)) = ch.body sequence bytes := by
  have hsplit : ch.frameHeader sequence ++ bytes =
      (frameMagic ++ be16 sidecarProtocolMajor ++ be16 ch.protocolMinor ++
        [ch.role.outgoingDirection.wireValue] ++ be64 ch.generation ++ be64 sequence ++
        be16 (UInt16.ofNat (utf8 ch.sessionId).length)) ++ be32 0 ++
        (utf8 ch.sessionId ++ bytes) := by
    simp [frameHeader]
  rw [hsplit, patch_append (by simp [frameMagic, payloadLengthOffset]) (by simp)]
  simp [body, frameBody]

/-- What `new` puts into a channel. -/
structure CreatedWith (ch : AuthenticatedSidecarChannel) (counter : UInt64)
    (role : SidecarPeerRole) (sessionId : String) (generation : UInt64) (key : SidecarSessionKey)
    (maxFrameBytes : UInt32) : Prop where
  instanceId : ch.instanceId = counter
  role : ch.role = role
  protocolMinor : ch.protocolMinor = sidecarBootstrapMinor
  sessionId : ch.sessionId = sessionId
  generation : ch.generation = generation
  key : ch.key = key
  maxFrameBytes : ch.maxFrameBytes = maxFrameBytes
  unlocked : ch.frameLimitLocked = false
  sendSequence : ch.sendSequence = 0
  receiveSequence : ch.receiveSequence = 0
  live : ch.retired = false

theorem new_eq_ok {counter next : UInt64} {role : SidecarPeerRole} {sessionId : String}
    {generation : UInt64} {key : SidecarSessionKey} {maxFrameBytes : UInt32}
    (h : new counter role sessionId generation key maxFrameBytes = .ok (ch, next)) :
    counter.toNat + 1 < 2 ^ 64 ∧ next = counter + 1 ∧
      ch.CreatedWith counter role sessionId generation key maxFrameBytes := by
  unfold new at h
  split at h
  · split at h
    · split at h
      · cases hc : checkedSucc counter with
        | none =>
          rw [hc] at h
          cases h
        | some n =>
          rw [hc] at h
          obtain ⟨hroom, rfl⟩ := checkedSucc_eq_some.mp hc
          cases h
          exact ⟨hroom, rfl, ⟨rfl, rfl, rfl, rfl, rfl, rfl, rfl, rfl, rfl, rfl, rfl⟩⟩
      · cases h
    · cases h
  · cases h

/-- Sealing succeeds exactly on a live channel with a sequence number left and a payload within
the budget, and then yields the authenticated body under the next sequence number. -/
theorem seal_eq_ok : ch.seal mac payload = .ok (frame, ch') ↔
    ch.retired = false ∧ ch.sendSequence.toNat + 1 < 2 ^ 64 ∧ payload.failed = false ∧
      payload.output.length ≤ ch.maxPayloadBytes ∧
      frame = mac.frame ch.key (ch.body (ch.sendSequence + 1) payload.output) ∧
      ch' = { ch with sendSequence := ch.sendSequence + 1 } := by
  have hbudget := ch.maxPayloadBytes_add
  have hmax := ch.maxFrameBytes.toNat_lt
  have hroom : ∀ sequence, ch.maxFrameBytes.toNat - authTagBytes -
      (ch.frameHeader sequence).length = ch.maxPayloadBytes := by
    intro sequence
    rw [length_frameHeader]
    omega
  unfold AuthenticatedSidecarChannel.seal
  simp only [Except.bind_eq_ok, Except.ensure_eq_ok, checkedSucc_elim_eq_ok, writePayload_eq_ok,
    hroom]
  constructor
  · rintro ⟨-, hlive, sequence, ⟨hseq, rfl⟩, -, -, -, -, written, ⟨hok, hfit, rfl⟩, -, -, hdone⟩
    rw [List.length_append, Nat.add_sub_cancel_left, patch_frameHeader] at hdone
    cases hdone
    exact ⟨hlive, hseq, hok, hfit, rfl, rfl⟩
  · rintro ⟨hlive, hseq, hok, hfit, rfl, rfl⟩
    refine ⟨(), hlive, _, ⟨hseq, rfl⟩, (), by omega, (), ch.session_valid.2, _, ⟨hok, hfit, rfl⟩,
      (), ?_, ?_⟩
    · rw [List.length_append, Nat.add_sub_cancel_left]
      omega
    · rw [List.length_append, Nat.add_sub_cancel_left, patch_frameHeader]
      rfl

theorem lowerFrameLimit_eq_ok {limit : UInt32} (h : ch.lowerFrameLimit limit = .ok ch') :
    ch.frameLimitLocked = false ∧ limit.toNat ≤ ch.maxFrameBytes.toNat ∧
      ∃ hf, ch' = { ch with maxFrameBytes := limit, frame_fits := hf } := by
  unfold lowerFrameLimit at h
  split at h
  · cases h
  · next hl =>
    split at h
    · next hf =>
      split at h
      · cases h
      · next hle =>
        cases h
        exact ⟨by simpa using hl, by simpa [UInt32.lt_iff_toNat_lt] using hle, hf, rfl⟩
    · cases h

theorem applyNegotiatedProtocol_eq_ok {n : NegotiatedSidecarProtocol}
    (h : ch.applyNegotiatedProtocol n = .ok ch') :
    ch.frameLimitLocked = false ∧ n.limits.maxFrameBytes.toNat ≤ ch.maxFrameBytes.toNat ∧
      ∃ hf, ch' = { ch with
        maxFrameBytes := n.limits.maxFrameBytes, protocolMinor := n.protocolMinor,
        frame_fits := hf } := by
  simp only [applyNegotiatedProtocol, Except.bind_eq_ok, Except.ensure_eq_ok] at h
  obtain ⟨-, -, -, -, lowered, hl, h⟩ := h
  obtain ⟨hlock, hle, hf, rfl⟩ := lowerFrameLimit_eq_ok hl
  cases h
  exact ⟨hlock, hle, hf, rfl⟩

/-- A selection of this major and minor applies when its ceiling fits between the smallest frame
and the current ceiling. -/
theorem applyNegotiatedProtocol_eq {n : NegotiatedSidecarProtocol}
    (hmajor : n.protocolMajor = sidecarProtocolMajor)
    (hminor : ¬ sidecarProtocolMinor < n.protocolMinor) (hlock : ch.frameLimitLocked = false)
    (hf : minimumFrameBytes (utf8 ch.sessionId).length ≤ n.limits.maxFrameBytes.toNat)
    (hle : n.limits.maxFrameBytes.toNat ≤ ch.maxFrameBytes.toNat) :
    ch.applyNegotiatedProtocol n = .ok { ch with
      maxFrameBytes := n.limits.maxFrameBytes, protocolMinor := n.protocolMinor,
      frame_fits := hf } := by
  have hlt : ¬ ch.maxFrameBytes < n.limits.maxFrameBytes := by
    rw [UInt32.lt_iff_toNat_lt]
    omega
  simp [applyNegotiatedProtocol, Except.ensure, hmajor, hminor, lowerFrameLimit, hlock, hf, hlt,
    bind, Except.bind, pure, Except.pure]

/-- A frame that passes every check before decoding is the tagged body of its payload under
exactly the next sequence number, from the peer's direction, session and generation. -/
theorem authenticatedPayload_eq_ok {sequence : UInt64} {bytes : Bytes}
    (h : ch.authenticatedPayload mac frame = .ok (sequence, bytes)) :
    frame.length ≤ ch.maxFrameBytes.toNat ∧ ch.receiveSequence.toNat + 1 < 2 ^ 64 ∧
      sequence = ch.receiveSequence + 1 ∧ mac.verifies ch.key frame ∧
      frame.take (frame.length - authTagBytes) =
        frameBody ch.protocolMinor ch.role.expectedRemote.outgoingDirection ch.generation sequence
          (utf8 ch.sessionId) bytes := by
  unfold authenticatedPayload at h
  simp only [Except.bind_eq_ok, Except.ensure_eq_ok, checkedSucc_elim_eq_ok, Prod.exists] at h
  obtain ⟨-, hmax, -, -, -, hmac, magic, c₁, h₁, -, rfl, major, c₂, h₂, minor, c₃, h₃, -,
    ⟨hmajor, hminor⟩, wire, c₄, h₄, direction, hdir, -, rfl, generation, c₅, h₅, -, hgen,
    sequence', c₆, h₆, expected, ⟨hseq, rfl⟩, -, hexpected, sessionLen, c₇, h₇, payloadLen, c₈, h₈,
    session, c₉, h₉, -, rfl, payload, c₁₀, h₁₀, -, hend, hdone⟩ := h
  cases hdone
  obtain ⟨-, -, e₁⟩ := takeSlice_eq_ok h₁
  obtain ⟨l₂, -, e₂⟩ := takeSlice_eq_ok h₂
  obtain ⟨l₃, -, e₃⟩ := takeSlice_eq_ok h₃
  obtain ⟨l₄, -, e₄⟩ := takeSlice_eq_ok h₄
  obtain ⟨l₅, -, e₅⟩ := takeSlice_eq_ok h₅
  obtain ⟨l₆, -, e₆⟩ := takeSlice_eq_ok h₆
  obtain ⟨l₇, -, e₇⟩ := takeSlice_eq_ok h₇
  obtain ⟨l₈, -, e₈⟩ := takeSlice_eq_ok h₈
  obtain ⟨l₉, -, e₉⟩ := takeSlice_eq_ok h₉
  obtain ⟨l₁₀, -, e₁₀⟩ := takeSlice_eq_ok h₁₀
  refine ⟨hmax, hseq, hexpected, hmac, ?_⟩
  have hwire : wire = [ch.role.expectedRemote.outgoingDirection.wireValue] := by
    obtain ⟨value, rfl⟩ := List.length_eq_one_iff.mp l₄
    rw [SidecarDirection.fromWire_eq_ok] at hdir
    simpa using hdir
  rw [List.drop_zero] at e₁
  rw [e₁, e₂, e₃, e₄, e₅, e₆, e₇, e₈, e₉, e₁₀, hend, List.drop_length, hwire]
  rw [frameBody, ← hmajor, ← hminor, ← hgen, be16_fromBe16 l₂, be16_fromBe16 l₃,
    be64_fromBe64 l₅, be64_fromBe64 l₆, l₉, UInt16.ofNat_toNat, be16_fromBe16 l₇, l₁₀,
    UInt32.ofNat_toNat, be32_fromBe32 l₈]
  simp

@[simp] theorem verifies_frame (key : SidecarSessionKey) (message : Bytes) :
    mac.verifies key (mac.frame key message) := by
  rw [Mac.verifies, Mac.length_frame, Nat.add_sub_cancel, Mac.frame, List.take_left,
    List.drop_left]

/-- The tagged body of a payload under the next sequence number passes every check before
decoding. -/
theorem authenticatedPayload_frame (mac : Mac) {bytes : Bytes}
    (hroom : ch.receiveSequence.toNat + 1 < 2 ^ 64) (hfit : bytes.length ≤ ch.maxPayloadBytes) :
    ch.authenticatedPayload mac (mac.frame ch.key
      (frameBody ch.protocolMinor ch.role.expectedRemote.outgoingDirection ch.generation
        (ch.receiveSequence + 1) (utf8 ch.sessionId) bytes)) =
      .ok (ch.receiveSequence + 1, bytes) := by
  have hbudget := ch.maxPayloadBytes_add
  have hmax := ch.maxFrameBytes.toNat_lt
  have hsession := ch.session_valid.2
  generalize hframe : frameBody ch.protocolMinor ch.role.expectedRemote.outgoingDirection
    ch.generation (ch.receiveSequence + 1) (utf8 ch.sessionId) bytes = message
  have hl : message.length = fixedHeaderBytes + (utf8 ch.sessionId).length + bytes.length := by
    rw [← hframe, length_frameBody]
  have hbody : (mac.frame ch.key message).take
      ((mac.frame ch.key message).length - authTagBytes) = message := by
    rw [Mac.length_frame, Nat.add_sub_cancel, Mac.frame, List.take_left]
  have hdrop : message.drop 0 = frameMagic ++ (be16 sidecarProtocolMajor ++
      (be16 ch.protocolMinor ++ ([ch.role.expectedRemote.outgoingDirection.wireValue] ++
      (be64 ch.generation ++ (be64 (ch.receiveSequence + 1) ++
      (be16 (UInt16.ofNat (utf8 ch.sessionId).length) ++
      (be32 (UInt32.ofNat bytes.length) ++ (utf8 ch.sessionId ++ (bytes ++ []))))))))) := by
    simp [← hframe, frameBody]
  obtain ⟨h₁, hdrop, hc⟩ := takeSlice_of_drop hdrop (Nat.zero_le _)
  obtain ⟨h₂, hdrop, hc⟩ := takeSlice_of_drop hdrop hc
  obtain ⟨h₃, hdrop, hc⟩ := takeSlice_of_drop hdrop hc
  obtain ⟨h₄, hdrop, hc⟩ := takeSlice_of_drop hdrop hc
  obtain ⟨h₅, hdrop, hc⟩ := takeSlice_of_drop hdrop hc
  obtain ⟨h₆, hdrop, hc⟩ := takeSlice_of_drop hdrop hc
  obtain ⟨h₇, hdrop, hc⟩ := takeSlice_of_drop hdrop hc
  obtain ⟨h₈, hdrop, hc⟩ := takeSlice_of_drop hdrop hc
  obtain ⟨h₉, hdrop, hc⟩ := takeSlice_of_drop hdrop hc
  obtain ⟨h₁₀, -, -⟩ := takeSlice_of_drop hdrop hc
  simp only [length_be16, length_be32, length_be64, List.length_singleton] at *
  have hsessionLen : (utf8 ch.sessionId).length =
      (fromBe16 (be16 (UInt16.ofNat (utf8 ch.sessionId).length))).toNat := by
    rw [fromBe16_be16, UInt16.toNat_ofNat_of_lt' (by simpa using hsession)]
  have hpayloadLen : bytes.length = (fromBe32 (be32 (UInt32.ofNat bytes.length))).toNat := by
    have hlt : bytes.length < 2 ^ 32 := by omega
    rw [fromBe32_be32, UInt32.toNat_ofNat_of_lt' (by simpa using hlt)]
  unfold authenticatedPayload
  simp only [Except.bind_eq_ok, Except.ensure_eq_ok, checkedSucc_elim_eq_ok, Prod.exists, hbody]
  refine ⟨(), ?_, (), ?_, (), verifies_frame _ _, _, _, h₁, (), rfl, _, _, h₂, _, _, h₃, (),
    ⟨fromBe16_be16 _, fromBe16_be16 _⟩, _, _, h₄, _, SidecarDirection.fromWire_eq_ok.mpr rfl, (),
    rfl, _, _, h₅, (), fromBe64_be64 _, _, _, h₆, _, ⟨hroom, rfl⟩, (), fromBe64_be64 _, _, _, h₇,
    _, _, h₈, _, _, (congrArg (takeSlice message _) hsessionLen.symm).trans h₉, (), rfl, _, _,
    (congrArg (takeSlice message _) hpayloadLen.symm).trans h₁₀, (), ?_, ?_⟩
  · rw [Mac.length_frame, hl]
    omega
  · rw [Mac.length_frame, hl]
    omega
  · rw [hl]
    simp [frameMagic, fixedHeaderBytes]
  · rw [fromBe64_be64]
    rfl

/-- The ways `open` ends: refused on a retired channel, accepted with the next sequence number, or
failed and retired. -/
theorem open_cases {α : Type} (mac : Mac) (decode : Bytes → Option α)
    (ch : AuthenticatedSidecarChannel) (frame : Bytes) :
    (ch.retired = true ∧ ch.open mac decode frame = (.error .channelRetired, ch)) ∨
    (ch.retired = false ∧ ∃ payload decoded,
      ch.authenticatedPayload mac frame = .ok (ch.receiveSequence + 1, payload) ∧
      decode payload = some decoded ∧
      ch.open mac decode frame =
        (.ok decoded, { ch with receiveSequence := ch.receiveSequence + 1 })) ∨
    (ch.retired = false ∧ ∃ error, ch.open mac decode frame = (.error error, ch.retire)) := by
  unfold AuthenticatedSidecarChannel.open
  by_cases hr : ch.retired
  · exact Or.inl ⟨hr, by simp [hr]⟩
  · right
    have hlive : ch.retired = false := by simpa using hr
    cases ho : ch.openActive mac decode frame with
    | error error => exact Or.inr ⟨hlive, error, by simp [hlive]⟩
    | ok result =>
      obtain ⟨decoded, ch'⟩ := result
      simp only [openActive, Except.bind_eq_ok, Prod.exists] at ho
      obtain ⟨sequence, payload, hp, decoded', hd, hdone⟩ := ho
      obtain ⟨-, -, rfl, -, -⟩ := authenticatedPayload_eq_ok hp
      cases hdone
      refine Or.inl ⟨hlive, payload, decoded, hp, ?_, by simp [hlive]⟩
      cases hdec : decode payload <;> simp_all [Option.elim]

theorem open_frame (mac : Mac) {α : Type} {decode : Bytes → Option α} {bytes : Bytes} {decoded : α}
    (hlive : ch.retired = false) (hroom : ch.receiveSequence.toNat + 1 < 2 ^ 64)
    (hfit : bytes.length ≤ ch.maxPayloadBytes) (hd : decode bytes = some decoded) :
    ch.open mac decode (mac.frame ch.key
      (frameBody ch.protocolMinor ch.role.expectedRemote.outgoingDirection ch.generation
        (ch.receiveSequence + 1) (utf8 ch.sessionId) bytes)) =
      (.ok decoded, { ch with receiveSequence := ch.receiveSequence + 1 }) := by
  have hp := authenticatedPayload_frame mac hroom hfit
  simp [AuthenticatedSidecarChannel.open, openActive, hlive, hp, hd, bind, Except.bind, pure,
    Except.pure]

end AuthenticatedSidecarChannel
end OpenclawNode.Sidecar
