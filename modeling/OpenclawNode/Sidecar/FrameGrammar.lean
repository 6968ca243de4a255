import OpenclawNode.Base.Crash
import OpenclawNode.Sidecar.Authenticity

/-! The frames that a channel opens are those that its peer's grammar gives, and no others. -/
namespace OpenclawNode.Sidecar

open BigEndian (Bytes)
open Crash (Checked checkedSub lift orCrash splitAt)
open Except (ensure)
open Text (utf8)
open FixedWidth (checkedSucc)

/-- `take_slice` with its sum in `usize`. A range outside of the bytes is an error, not a crash. -/
def takeSliceUsize (bytes : Bytes) (cursor length : Nat) :
    Except SidecarFrameError (Bytes × Nat) :=
  if cursor + length < 2 ^ 64 then
    if cursor ≤ cursor + length ∧ cursor + length ≤ bytes.length then
      .ok ((bytes.drop cursor).take length, cursor + length)
    else .error .truncated
  else .error .truncated

theorem takeSliceUsize_eq {bytes : Bytes} (h : bytes.length < 2 ^ 64) (cursor length : Nat) :
    takeSliceUsize bytes cursor length = takeSlice bytes cursor length := by
  unfold takeSliceUsize takeSlice
  by_cases hl : cursor + length ≤ bytes.length
  · rw [if_pos (by omega), if_pos ⟨by omega, hl⟩, if_pos hl]
  · rw [if_neg (c := cursor + length ≤ bytes.length) hl]
    split
    · rw [if_neg fun hn => hl hn.2]
    · rfl

namespace AuthenticatedSidecarChannel

variable {mac : Mac} {ch : AuthenticatedSidecarChannel} {frame : Bytes}

/-- `open_active` up to the payload, with each operation that can crash: the subtraction, the split
and the index into the direction byte. -/
def authenticatedPayloadChecked (mac : Mac) (ch : AuthenticatedSidecarChannel) (frame : Bytes) :
    Checked SidecarFrameError (UInt64 × Bytes) := do
  lift (ensure (frame.length ≤ ch.maxFrameBytes.toNat)
    (.frameTooLarge (UInt64.ofNat frame.length) ch.maxFrameBytes))
  lift (ensure (fixedHeaderBytes + authTagBytes ≤ frame.length) .truncated)
  let authenticatedLen ← orCrash (checkedSub frame.length authTagBytes)
  let (authenticated, suppliedTag) ← orCrash (splitAt frame authenticatedLen)
  lift (ensure (mac.tag ch.key authenticated = suppliedTag) .authentication)
  let (magic, cursor) ← lift (takeSliceUsize authenticated 0 4)
  lift (ensure (magic = frameMagic) .invalidMagic)
  let (major, cursor) ← lift (takeSliceUsize authenticated cursor 2)
  let (minor, cursor) ← lift (takeSliceUsize authenticated cursor 2)
  lift (ensure (fromBe16 major = sidecarProtocolMajor ∧ fromBe16 minor = ch.protocolMinor)
    (.unsupportedVersion (fromBe16 major) (fromBe16 minor)))
  let (wire, cursor) ← lift (takeSliceUsize authenticated cursor 1)
  let value ← orCrash wire.head?
  let direction ← lift (SidecarDirection.fromWire value)
  lift (ensure (direction = ch.role.expectedRemote.outgoingDirection) .wrongDirection)
  let (generation, cursor) ← lift (takeSliceUsize authenticated cursor 8)
  lift (ensure (fromBe64 generation = ch.generation)
    (.wrongGeneration ch.generation (fromBe64 generation)))
  let (sequence, cursor) ← lift (takeSliceUsize authenticated cursor 8)
  let expectedSequence ← lift
    ((checkedSucc ch.receiveSequence).elim (.error .sequenceExhausted) .ok)
  lift (ensure (fromBe64 sequence = expectedSequence)
    (.unexpectedSequence expectedSequence (fromBe64 sequence)))
  let (sessionLen, cursor) ← lift (takeSliceUsize authenticated cursor 2)
  let (payloadLen, cursor) ← lift (takeSliceUsize authenticated cursor 4)
  let (session, cursor) ← lift (takeSliceUsize authenticated cursor (fromBe16 sessionLen).toNat)
  lift (ensure (session = utf8 ch.sessionId) .wrongSession)
  let (payload, cursor) ← lift (takeSliceUsize authenticated cursor (fromBe32 payloadLen).toNat)
  lift (ensure (cursor = authenticated.length) .trailingBytes)
  lift (.ok (fromBe64 sequence, payload))

/-- No byte string makes the decoder crash, whatever lengths it holds. -/
theorem authenticatedPayloadChecked_eq (mac : Mac) (ch : AuthenticatedSidecarChannel)
    (frame : Bytes) :
    ch.authenticatedPayloadChecked mac frame = lift (ch.authenticatedPayload mac frame) := by
  have hmax := ch.maxFrameBytes.toNat_lt
  unfold authenticatedPayloadChecked authenticatedPayload
  refine Crash.lift_bind_eq fun _ hfits => ?_
  refine Crash.lift_bind_eq fun _ hmin => ?_
  rw [Except.ensure_eq_ok] at hfits hmin
  have htag : authTagBytes ≤ frame.length := by omega
  rw [Crash.checkedSub_of_le htag, Crash.orCrash_some_bind, Crash.splitAt_of_le (Nat.sub_le _ _),
    Crash.orCrash_some_bind]
  simp only [takeSliceUsize_eq (show (frame.take (frame.length - authTagBytes)).length < 2 ^ 64 by
    rw [List.length_take]; omega)]
  refine Crash.lift_bind_eq fun _ _ => ?_
  refine Crash.lift_bind_eq ?_
  rintro ⟨magic, cursor⟩ -
  refine Crash.lift_bind_eq fun _ _ => ?_
  refine Crash.lift_bind_eq ?_
  rintro ⟨major, cursor⟩ -
  refine Crash.lift_bind_eq ?_
  rintro ⟨minor, cursor⟩ -
  refine Crash.lift_bind_eq fun _ _ => ?_
  refine Crash.lift_bind_eq ?_
  rintro ⟨wire, cursor⟩ hwire
  obtain ⟨value, rfl⟩ := List.length_eq_one_iff.mp (takeSlice_eq_ok hwire).1
  refine (Crash.orCrash_some_bind value _).trans ?_
  refine Crash.lift_bind_eq fun direction _ => ?_
  refine Crash.lift_bind_eq fun _ _ => ?_
  refine Crash.lift_bind_eq ?_
  rintro ⟨generation, cursor⟩ -
  refine Crash.lift_bind_eq fun _ _ => ?_
  refine Crash.lift_bind_eq ?_
  rintro ⟨sequence, cursor⟩ -
  refine Crash.lift_bind_eq fun expected _ => ?_
  refine Crash.lift_bind_eq fun _ _ => ?_
  refine Crash.lift_bind_eq ?_
  rintro ⟨sessionLen, cursor⟩ -
  refine Crash.lift_bind_eq ?_
  rintro ⟨payloadLen, cursor⟩ -
  refine Crash.lift_bind_eq ?_
  rintro ⟨session, cursor⟩ -
  refine Crash.lift_bind_eq fun _ _ => ?_
  refine Crash.lift_bind_eq ?_
  rintro ⟨payload, cursor⟩ -
  exact Crash.lift_bind_eq fun _ _ => rfl

/-- A frame whose tag verifies is the tagged frame of what comes before the tag. -/
theorem eq_frame_of_verifies (h : mac.verifies ch.key frame) :
    frame = mac.frame ch.key (frame.take (frame.length - authTagBytes)) := by
  rw [Mac.frame, h, List.take_append_drop]

/-- The frame that carries these payload bytes next, as the peer of the channel makes it. -/
def nextFrame (mac : Mac) (ch : AuthenticatedSidecarChannel) (payload : Bytes) : Bytes :=
  mac.frame ch.key (frameBody ch.protocolMinor ch.role.expectedRemote.outgoingDirection
    ch.generation (ch.receiveSequence + 1) (utf8 ch.sessionId) payload)

theorem length_nextFrame (payload : Bytes) : (ch.nextFrame mac payload).length =
    fixedHeaderBytes + (utf8 ch.sessionId).length + payload.length + authTagBytes := by
  rw [nextFrame, Mac.length_frame, length_frameBody]

/-- The checks before decoding pass for exactly the frames of the grammar. -/
theorem authenticatedPayload_iff {sequence : UInt64} {payload : Bytes} :
    ch.authenticatedPayload mac frame = .ok (sequence, payload) ↔
      ch.receiveSequence.toNat + 1 < 2 ^ 64 ∧ frame.length ≤ ch.maxFrameBytes.toNat ∧
        sequence = ch.receiveSequence + 1 ∧ frame = ch.nextFrame mac payload := by
  constructor
  · intro h
    obtain ⟨hfits, hroom, rfl, hmac, hbody⟩ := authenticatedPayload_eq_ok h
    refine ⟨hroom, hfits, rfl, ?_⟩
    rw [nextFrame, ← hbody]
    exact eq_frame_of_verifies hmac
  · rintro ⟨hroom, hfits, rfl, rfl⟩
    have hbudget := ch.maxPayloadBytes_add
    rw [length_nextFrame] at hfits
    exact authenticatedPayload_frame mac hroom (by omega)

theorem open_eq_ok {α : Type} {decode : Bytes → Option α} (hlive : ch.retired = false)
    {decoded : α} {ch' : AuthenticatedSidecarChannel} :
    ch.open mac decode frame = (.ok decoded, ch') ↔
      ch.receiveSequence.toNat + 1 < 2 ^ 64 ∧ frame.length ≤ ch.maxFrameBytes.toNat ∧
        ∃ payload, frame = ch.nextFrame mac payload ∧ decode payload = some decoded ∧
          ch' = { ch with receiveSequence := ch.receiveSequence + 1 } := by
  constructor
  · intro h
    obtain ⟨hr, -⟩ | ⟨-, payload, decoded', hp, hd, ho⟩ | ⟨-, error, ho⟩ :=
      open_cases mac decode ch frame
    · rw [hlive] at hr
      cases hr
    · rw [ho] at h
      cases h
      obtain ⟨hroom, hfits, -, hframe⟩ := authenticatedPayload_iff.mp hp
      exact ⟨hroom, hfits, payload, hframe, hd, rfl⟩
    · rw [ho] at h
      cases h
  · rintro ⟨hroom, hfits, payload, rfl, hd, rfl⟩
    have hbudget := ch.maxPayloadBytes_add
    rw [length_nextFrame] at hfits
    exact open_frame mac hlive hroom (by omega) hd

/-- A live channel opens exactly the frames of its grammar. Reading any other bytes does not crash,
and leaves all of the channel but its key and its liveness. -/
theorem opens_frame_grammar {α : Type} (mac : Mac) (decode : Bytes → Option α)
    (ch : AuthenticatedSidecarChannel) (hlive : ch.retired = false) (frame : Bytes) :
    (∀ decoded ch', ch.open mac decode frame = (.ok decoded, ch') ↔
      ch.receiveSequence.toNat < 2 ^ 64 - 1 ∧ frame.length ≤ ch.maxFrameBytes.toNat ∧
      ∃ payload : Bytes,
        (let covered := frameMagic ++ be16 sidecarProtocolMajor ++ be16 ch.protocolMinor ++
          [ch.role.expectedRemote.outgoingDirection.wireValue] ++ be64 ch.generation ++
          be64 (ch.receiveSequence + 1) ++ be16 (UInt16.ofNat (utf8 ch.sessionId).length) ++
          be32 (UInt32.ofNat payload.length) ++ utf8 ch.sessionId ++ payload
        frame = covered ++ mac.tag ch.key covered) ∧
        decode payload = some decoded ∧
        ch' = { ch with receiveSequence := ch.receiveSequence + 1 }) ∧
    (∀ error ch', ch.open mac decode frame = (.error error, ch') →
      ch' = { ch with key := .zero, retired := true }) ∧
    ch.authenticatedPayloadChecked mac frame = lift (ch.authenticatedPayload mac frame) := by
  refine ⟨fun decoded ch' => ?_, fun error ch' h => ?_, authenticatedPayloadChecked_eq mac ch frame⟩
  · rw [open_eq_ok hlive]
    have hroom : ch.receiveSequence.toNat + 1 < 2 ^ 64 ↔
        ch.receiveSequence.toNat < 2 ^ 64 - 1 := by omega
    rw [hroom]
    rfl
  · obtain ⟨hr, -⟩ | ⟨-, payload, decoded, -, -, ho⟩ | ⟨-, error', ho⟩ :=
      open_cases mac decode ch frame
    · rw [hlive] at hr
      cases hr
    · rw [ho] at h
      cases h
    · rw [ho] at h
      cases h
      rfl

/-- The probe of the fixture is a frame of the grammar. -/
theorem probe_opened : (probeChannel 2 .runtime 0 0).open probeMac some
    (probeMac.frame probeKey probeBody) = (.ok probePayload, probeChannel 2 .runtime 0 1) :=
  ((opens_frame_grammar probeMac some (probeChannel 2 .runtime 0 0) rfl _).1 _ _).mpr
    ⟨by decide, by rw [Mac.length_frame]; decide +kernel, probePayload, rfl, rfl, rfl⟩

end AuthenticatedSidecarChannel
end OpenclawNode.Sidecar
