import OpenclawNode.Base.Chunks
import OpenclawNode.Base.Transition
import OpenclawNode.Sidecar.HandshakeAgreement

/-! Length-prefixed frames on a byte stream, and what two complementary channels make of them. -/
namespace OpenclawNode.Sidecar

open BigEndian (Bytes)
open BoundedWriter (Codec Serialization)
open Chunks (readExact readExact_append readExact_of_lt)
open Except (ensure)
open Transition (System)

/-- Read one bounded, length-prefixed frame, unless the local deadline expires first. -/
def readSidecarFrame (reader : List Bytes) (maxFrameBytes : UInt32) (expires : Bool) :
    Except SidecarFrameError (Bytes × List Bytes) := do
  ensure (¬ maxFrameBytes < minFrameBytes) (.invalidFrameLimit maxFrameBytes)
  ensure (expires = false) .deadline
  let (lengthBytes, reader) ← (readExact 4 reader).elim (.error .io) .ok
  let length := fromBe32 lengthBytes
  ensure (¬ (length = 0 ∨ maxFrameBytes < length)) (.frameTooLarge length.toUInt64 maxFrameBytes)
  (readExact length.toNat reader).elim (.error .io) .ok

/-- Write one bounded, length-prefixed frame behind what the stream holds. -/
def writeSidecarFrame (stream frame : Bytes) (maxFrameBytes : UInt32) (expires : Bool) :
    Except SidecarFrameError Bytes := do
  ensure (¬ maxFrameBytes < minFrameBytes) (.invalidFrameLimit maxFrameBytes)
  ensure (frame.length < 4294967296) (.frameTooLarge (UInt64.ofNat frame.length) maxFrameBytes)
  let length := UInt32.ofNat frame.length
  ensure (¬ (length = 0 ∨ maxFrameBytes < length)) (.frameTooLarge length.toUInt64 maxFrameBytes)
  ensure (expires = false) .deadline
  return stream ++ be32 length ++ frame

/-- A frame behind its length. -/
def prefixed (frame : Bytes) : Bytes := be32 (UInt32.ofNat frame.length) ++ frame

/-- The lengths a frame of this channel can have. -/
structure FrameLength (frame : Bytes) (maxFrameBytes : UInt32) : Prop where
  limit : ¬ maxFrameBytes < minFrameBytes
  positive : 0 < frame.length
  fits : frame.length ≤ maxFrameBytes.toNat

theorem FrameLength.toNat {frame : Bytes} {maxFrameBytes : UInt32}
    (h : FrameLength frame maxFrameBytes) :
    (UInt32.ofNat frame.length).toNat = frame.length :=
  UInt32.toNat_ofNat_of_lt' (h.fits.trans_lt maxFrameBytes.toNat_lt)

theorem FrameLength.admitted {frame : Bytes} {maxFrameBytes : UInt32}
    (h : FrameLength frame maxFrameBytes) : ¬ (UInt32.ofNat frame.length = 0 ∨
      maxFrameBytes < UInt32.ofNat frame.length) := by
  have hpos := h.positive
  have hfit := h.fits
  rintro (hz | hlt)
  · have hz := congrArg UInt32.toNat hz
    rw [h.toNat] at hz
    simp only [UInt32.toNat_ofNat] at hz
    omega
  · rw [UInt32.lt_iff_toNat_lt, h.toNat] at hlt
    omega

theorem FrameLength.write {frame : Bytes} {maxFrameBytes : UInt32}
    (h : FrameLength frame maxFrameBytes) (stream : Bytes) :
    writeSidecarFrame stream frame maxFrameBytes false = .ok (stream ++ prefixed frame) := by
  have hlt : frame.length < 4294967296 := h.fits.trans_lt maxFrameBytes.toNat_lt
  simp [writeSidecarFrame, ensure, h.limit, hlt, h.admitted, prefixed, bind, Except.bind, pure,
    Except.pure]

/-- However the stream is cut, the next frame is read whole and nothing beyond it. -/
theorem FrameLength.read {frame later : Bytes} {maxFrameBytes : UInt32} {chunks : List Bytes}
    (h : FrameLength frame maxFrameBytes) (hc : chunks.flatten = prefixed frame ++ later) :
    ∃ rest, readSidecarFrame chunks maxFrameBytes false = .ok (frame, rest) ∧
      rest.flatten = later := by
  rw [prefixed, List.append_assoc] at hc
  obtain ⟨chunks', hlength, hc'⟩ := readExact_append hc
  obtain ⟨rest, hframe, hrest⟩ := readExact_append hc'
  rw [length_be32] at hlength
  refine ⟨rest, ?_, hrest⟩
  simp [readSidecarFrame, ensure, h.limit, hlength, h.admitted, h.toNat, hframe, bind, Except.bind]

theorem readSidecarFrame_nil {chunks : List Bytes} (hc : chunks.flatten = [])
    (maxFrameBytes : UInt32) : ∃ e, readSidecarFrame chunks maxFrameBytes false = .error e := by
  have hnone : readExact 4 chunks = none := readExact_of_lt (by rw [hc]; decide)
  by_cases hl : maxFrameBytes < minFrameBytes
  · exact ⟨.invalidFrameLimit maxFrameBytes, by
      simp [readSidecarFrame, ensure, hl, bind, Except.bind]⟩
  · exact ⟨.io, by simp [readSidecarFrame, ensure, hl, hnone, bind, Except.bind]⟩

/-- Every frame a channel seals can be written and read under its ceiling. -/
theorem AuthenticatedSidecarChannel.frameLength (ch : AuthenticatedSidecarChannel) (mac : Mac)
    (key : SidecarSessionKey) (sequence : UInt64) {payload : Bytes}
    (hfit : payload.length ≤ ch.maxPayloadBytes) :
    FrameLength (mac.frame key (ch.body sequence payload)) ch.maxFrameBytes := by
  have hbudget := ch.maxPayloadBytes_add
  have hsession := ch.session_valid.1
  have hlength : (mac.frame key (ch.body sequence payload)).length =
      fixedHeaderBytes + (Text.utf8 ch.sessionId).length + payload.length + authTagBytes := by
    rw [Mac.length_frame, length_body]
  have hfixed : fixedHeaderBytes = 31 ∧ authTagBytes = 32 := ⟨rfl, rfl⟩
  constructor
  case limit =>
    have hmin : minFrameBytes.toNat = 65 := rfl
    rw [UInt32.lt_iff_toNat_lt]
    omega
  case positive => omega
  case fits => omega

/-- Both ends of a connection: their channels, the bytes each has written that the other has not
read, and the messages each has sealed and the other has opened. -/
structure FramedPeers (α : Type) where
  channel : SidecarPeerRole → AuthenticatedSidecarChannel
  unread : SidecarPeerRole → Bytes
  sealed : SidecarPeerRole → List α
  opened : SidecarPeerRole → List α

inductive FramedAction (α : Type)
  | send (role : SidecarPeerRole) (message : α)
  | receive (role : SidecarPeerRole)

variable {α : Type} {mac : Mac} {codec : SidecarPeerRole → Codec α} {w w' : FramedPeers α}
  {role : SidecarPeerRole}

/-- What the stream holds after a write. -/
def written (stream : Bytes) : Except SidecarFrameError Bytes → Bytes
  | .ok stream' => stream'
  | .error _ => stream

/-- A role seals a message and writes the frame, or the other role reads the next frame and opens
it, however the stream is cut. -/
inductive FramedStep (mac : Mac) (codec : SidecarPeerRole → Codec α) :
    FramedPeers α → FramedAction α → FramedPeers α → Prop
  | send {w : FramedPeers α} {role message frame ch} :
      (w.channel role).seal mac ((codec role).serialize message) = .ok (frame, ch) →
      FramedStep mac codec w (.send role message)
        { channel := Function.update w.channel role ch
          unread := Function.update w.unread role (written (w.unread role)
            (writeSidecarFrame (w.unread role) frame (w.channel role).maxFrameBytes false))
          sealed := Function.update w.sealed role (w.sealed role ++ [message])
          opened := w.opened }
  | receive {w : FramedPeers α} {role chunks frame rest result ch} :
      chunks.flatten = w.unread role →
      readSidecarFrame chunks (w.channel role.expectedRemote).maxFrameBytes false =
        .ok (frame, rest) →
      (w.channel role.expectedRemote).open mac (codec role).deserialize frame = (result, ch) →
      FramedStep mac codec w (.receive role)
        { channel := Function.update w.channel role.expectedRemote ch
          unread := Function.update w.unread role rest.flatten
          sealed := w.sealed
          opened := Function.update w.opened role (w.opened role ++ result.toOption.toList) }

/-- Fresh channels of the two roles that agree on everything else. -/
structure FramedPeers.Complementary (w : FramedPeers α) : Prop where
  role : ∀ role, (w.channel role).role = role
  agree : ∀ role, Delivers (w.channel role) (w.channel role.expectedRemote)
  sendSequence : ∀ role, (w.channel role).sendSequence = 0
  receiveSequence : ∀ role, (w.channel role).receiveSequence = 0
  unread : ∀ role, w.unread role = []
  sealed : ∀ role, w.sealed role = []
  opened : ∀ role, w.opened role = []

def framedSystem (mac : Mac) (codec : SidecarPeerRole → Codec α) :
    System (FramedPeers α) (FramedAction α) where
  Initial w := w.Complementary
  Step := FramedStep mac codec

/-- Repeated `read_sidecar_frame` and `open`, up to the first failure. -/
def receiveAll (mac : Mac) (decode : Bytes → Option α) :
    Nat → AuthenticatedSidecarChannel → List Bytes →
      List α × AuthenticatedSidecarChannel × List Bytes
  | 0, ch, reader => ([], ch, reader)
  | n + 1, ch, reader =>
    match readSidecarFrame reader ch.maxFrameBytes false with
    | .error _ => ([], ch, reader)
    | .ok (frame, reader) =>
      match ch.open mac decode frame with
      | (.error _, ch) => ([], ch, reader)
      | (.ok message, ch) =>
        let received := receiveAll mac decode n ch reader
        (message :: received.1, received.2)

/-- The bytes of the frames a channel makes of these messages, after as many frames before. -/
def frames (mac : Mac) (codec : Codec α) (ch : AuthenticatedSidecarChannel) :
    UInt64 → List α → Bytes
  | _, [] => []
  | sequence, message :: messages =>
    prefixed (mac.frame ch.key (ch.body (sequence + 1) (codec.serialize message).output)) ++
      frames mac codec ch (sequence + 1) messages

theorem frames_snoc (mac : Mac) (codec : Codec α) (ch : AuthenticatedSidecarChannel)
    (sequence : UInt64) (messages : List α) (message : α) :
    frames mac codec ch sequence (messages ++ [message]) = frames mac codec ch sequence messages ++
      prefixed (mac.frame ch.key (ch.body (sequence + UInt64.ofNat messages.length + 1)
        (codec.serialize message).output)) := by
  induction messages generalizing sequence with
  | nil => simp [frames]
  | cons m messages ih =>
    have hnext : sequence + 1 + UInt64.ofNat messages.length =
        sequence + UInt64.ofNat (messages.length + 1) := by
      rw [UInt64.ofNat_add, UInt64.add_assoc, UInt64.add_comm 1]
      rfl
    rw [List.cons_append, frames, ih, frames, hnext, List.length_cons, List.append_assoc]

/-- The frames do not depend on how far the channel has counted. -/
theorem frames_counted (mac : Mac) (codec : Codec α) (ch : AuthenticatedSidecarChannel)
    (sent received sequence : UInt64) (messages : List α) :
    frames mac codec (ch.counted sent received) sequence messages =
      frames mac codec ch sequence messages := by
  induction messages generalizing sequence with
  | nil => rfl
  | cons m messages ih =>
    rw [frames, ih, frames]
    rfl

theorem Delivers.counted {cs cr : AuthenticatedSidecarChannel} (h : Delivers cs cr)
    (sent received sent' received' : UInt64) :
    Delivers (cs.counted sent received) (cr.counted sent' received') :=
  ⟨h.live, h.live', h.role, h.key, h.sessionId, h.generation, h.protocolMinor, h.maxFrameBytes⟩

/-- One direction of a connection: what is unread are the frames of the messages still pending. -/
structure FramedDirection (mac : Mac) (codec : Codec α) (cs cr : AuthenticatedSidecarChannel)
    (unread : Bytes) (sealed opened pending : List α) : Prop where
  delivers : Delivers cs cr
  unread_eq : unread = frames mac codec cs cr.receiveSequence pending
  sealed_eq : sealed = opened ++ pending
  counted : cs.sendSequence.toNat = cr.receiveSequence.toNat + pending.length
  carried : ∀ message ∈ pending, cs.Carries (codec.serialize message)

section Direction

variable {codec : Codec α} {cs cr ch : AuthenticatedSidecarChannel} {unread : Bytes}
  {sealed opened pending : List α}

/-- Neither end's own counter for the other direction matters. -/
theorem FramedDirection.recount
    (h : FramedDirection mac codec cs cr unread sealed opened pending) (received sent : UInt64) :
    FramedDirection mac codec (cs.counted cs.sendSequence received)
      (cr.counted sent cr.receiveSequence) unread sealed opened pending where
  delivers := h.delivers.counted _ _ _ _
  unread_eq := by rw [frames_counted]; exact h.unread_eq
  sealed_eq := h.sealed_eq
  counted := h.counted
  carried := h.carried

/-- Sealing and writing a message makes it the last pending one. -/
theorem FramedDirection.send {message : α} {frame : Bytes}
    (h : FramedDirection mac codec cs cr unread sealed opened pending)
    (hs : cs.seal mac (codec.serialize message) = .ok (frame, ch)) :
    ch = cs.counted (cs.sendSequence + 1) cs.receiveSequence ∧
      FramedDirection mac codec ch cr
        (written unread (writeSidecarFrame unread frame cs.maxFrameBytes false))
        (sealed ++ [message]) opened (pending ++ [message]) := by
  obtain ⟨hlive, hroom, hf, hfit, rfl, rfl⟩ := AuthenticatedSidecarChannel.seal_eq_ok.mp hs
  have hnumber : cr.receiveSequence + UInt64.ofNat pending.length = cs.sendSequence := by
    apply UInt64.toNat_inj.mp
    have hsum := h.counted
    rw [UInt64.toNat_add, UInt64.toNat_ofNat', Nat.add_mod_mod, ← hsum]
    exact Nat.mod_eq_of_lt (by omega)
  refine ⟨rfl, h.delivers.counted (cs.sendSequence + 1) cs.receiveSequence cr.sendSequence
    cr.receiveSequence, ?_, ?_, ?_, ?_⟩
  · rw [(cs.frameLength mac cs.key (cs.sendSequence + 1) hfit).write, written, h.unread_eq]
    have hsnoc := frames_snoc mac codec cs cr.receiveSequence pending message
    rw [hnumber] at hsnoc
    exact hsnoc.symm.trans (frames_counted mac codec cs (cs.sendSequence + 1) cs.receiveSequence
      cr.receiveSequence (pending ++ [message])).symm
  · rw [h.sealed_eq, List.append_assoc]
  · have hsum := h.counted
    rw [FixedWidth.toNat_succ hroom, List.length_append, List.length_singleton]
    omega
  · intro m hm
    rcases List.mem_append.mp hm with hm | hm
    · exact h.carried m hm
    · rw [List.mem_singleton.mp hm]
      exact ⟨hf, hfit⟩

/-- The next pending message is read and opened, however the stream is cut. -/
theorem FramedDirection.next {message : α} {chunks : List Bytes}
    (h : FramedDirection mac codec cs cr unread sealed opened (message :: pending))
    (hexact : codec.Exact message) (hc : chunks.flatten = unread) :
    ∃ frame rest, readSidecarFrame chunks cr.maxFrameBytes false = .ok (frame, rest) ∧
      cr.open mac codec.deserialize frame =
        (.ok message, cr.counted cr.sendSequence (cr.receiveSequence + 1)) ∧
      FramedDirection mac codec cs (cr.counted cr.sendSequence (cr.receiveSequence + 1))
        rest.flatten sealed (opened ++ [message]) pending := by
  obtain ⟨hf, hfit⟩ := h.carried message List.mem_cons_self
  have hsum := h.counted
  have hroom : cr.receiveSequence.toNat + 1 < 2 ^ 64 := by
    have hlt := cs.sendSequence.toNat_lt
    rw [List.length_cons] at hsum
    omega
  rw [h.unread_eq, frames] at hc
  have hlength := cs.frameLength mac cs.key (cr.receiveSequence + 1) hfit
  rw [← h.delivers.maxFrameBytes] at hlength
  obtain ⟨rest, hread, hrest⟩ := hlength.read hc
  refine ⟨_, rest, hread, ?_, ?_⟩
  · have hmax : cr.maxPayloadBytes = cs.maxPayloadBytes := by
      simp only [AuthenticatedSidecarChannel.maxPayloadBytes, h.delivers.maxFrameBytes,
        h.delivers.sessionId]
    have hopen := AuthenticatedSidecarChannel.open_frame mac h.delivers.live' hroom
      (hmax ▸ hfit) (hexact hf)
    simpa [AuthenticatedSidecarChannel.counted, AuthenticatedSidecarChannel.body, h.delivers.key,
      h.delivers.role, h.delivers.sessionId, h.delivers.generation, h.delivers.protocolMinor]
      using hopen
  · refine ⟨h.delivers.counted cs.sendSequence cs.receiveSequence cr.sendSequence
      (cr.receiveSequence + 1), hrest, ?_, ?_, ?_⟩
    · rw [h.sealed_eq, List.append_assoc]
      rfl
    · show cs.sendSequence.toNat = (cr.receiveSequence + 1).toNat + pending.length
      rw [FixedWidth.toNat_succ hroom, hsum, List.length_cons]
      omega
    · intro m hm
      exact h.carried m (List.mem_cons_of_mem _ hm)

/-- Receiving all that is pending opens exactly that, and reads the stream to its end. -/
theorem FramedDirection.receiveAll {chunks : List Bytes} {n : Nat}
    (h : FramedDirection mac codec cs cr unread sealed opened pending)
    (hexact : ∀ message, codec.Exact message) (hc : chunks.flatten = unread)
    (hn : pending.length ≤ n) :
    ∃ ch rest, receiveAll mac codec.deserialize n cr chunks = (pending, ch, rest) ∧
      rest.flatten = [] ∧ ch.retired = false := by
  induction pending generalizing n cr chunks unread opened with
  | nil =>
    have hnil : chunks.flatten = [] := hc.trans h.unread_eq
    refine ⟨cr, chunks, ?_, hnil, h.delivers.live'⟩
    cases n with
    | zero => rfl
    | succ n =>
      obtain ⟨e, he⟩ := readSidecarFrame_nil hnil cr.maxFrameBytes
      rw [Sidecar.receiveAll, he]
  | cons message pending ih =>
    obtain ⟨n, rfl⟩ := Nat.exists_eq_succ_of_ne_zero (by
      rw [List.length_cons] at hn
      omega : n ≠ 0)
    obtain ⟨frame, rest, hread, hopen, hnext⟩ := h.next (hexact message) hc
    obtain ⟨ch, rest', hall, hrest⟩ := ih hnext rfl (Nat.le_of_succ_le_succ hn)
    refine ⟨ch, rest', ?_, hrest⟩
    rw [Sidecar.receiveAll, hread]
    simp only [hopen, hall]

end Direction

/-- Both directions of a connection. -/
def FramedPeers.Streams (mac : Mac) (codec : SidecarPeerRole → Codec α) (w : FramedPeers α) :
    Prop :=
  ∀ role, ∃ pending, FramedDirection mac (codec role) (w.channel role)
    (w.channel role.expectedRemote) (w.unread role) (w.sealed role) (w.opened role) pending

theorem framed_initial (hw : w.Complementary) : w.Streams mac codec := by
  intro role
  refine ⟨[], hw.agree role, ?_, ?_, ?_, fun m hm => absurd hm List.not_mem_nil⟩
  · rw [hw.unread role]
    rfl
  · rw [hw.sealed role, hw.opened role]
    rfl
  · rw [hw.sendSequence role, hw.receiveSequence role.expectedRemote]
    rfl

theorem SidecarPeerRole.eq_or_expectedRemote (role role' : SidecarPeerRole) :
    role' = role ∨ role' = role.expectedRemote := by
  cases role <;> cases role' <;> simp [SidecarPeerRole.expectedRemote]

theorem SidecarPeerRole.expectedRemote_ne (role : SidecarPeerRole) :
    role.expectedRemote ≠ role := by
  cases role <;> decide

theorem framed_step {a : FramedAction α} (hexact : ∀ role message, (codec role).Exact message)
    (hs : (framedSystem mac codec).Step w a w') (h : w.Streams mac codec) :
    w'.Streams mac codec := by
  cases hs with
  | @send role message frame ch hseal =>
    have hne := role.expectedRemote_ne
    obtain ⟨pending, hd⟩ := h role
    obtain ⟨rfl, hd'⟩ := hd.send hseal
    intro role'
    rcases role.eq_or_expectedRemote role' with rfl | rfl
    · refine ⟨pending ++ [message], ?_⟩
      simpa [Function.update_of_ne hne] using hd'
    · obtain ⟨pending', hother⟩ := h role.expectedRemote
      refine ⟨pending', ?_⟩
      have hother' := hother.recount (w.channel role.expectedRemote).receiveSequence
        ((w.channel role).sendSequence + 1)
      rw [SidecarPeerRole.expectedRemote_expectedRemote,
        AuthenticatedSidecarChannel.counted_self rfl rfl] at hother'
      simpa [Function.update_of_ne hne] using hother'
  | @receive role chunks frame rest result ch hc hread hopen =>
    have hne := role.expectedRemote_ne
    obtain ⟨pending, hd⟩ := h role
    cases pending with
    | nil =>
      obtain ⟨e, he⟩ := readSidecarFrame_nil (hc.trans hd.unread_eq)
        (w.channel role.expectedRemote).maxFrameBytes
      rw [he] at hread
      cases hread
    | cons message pending =>
      obtain ⟨frame', rest', hread', hopen', hd'⟩ := hd.next (hexact role message) hc
      rw [hread'] at hread
      cases hread
      rw [hopen'] at hopen
      cases hopen
      intro role'
      rcases role.eq_or_expectedRemote role' with rfl | rfl
      · refine ⟨pending, ?_⟩
        simpa [Function.update_of_ne hne.symm, Except.toOption] using hd'
      · obtain ⟨pending', hother⟩ := h role.expectedRemote
        refine ⟨pending', ?_⟩
        have hother' := hother.recount
          ((w.channel role.expectedRemote).receiveSequence + 1) (w.channel role).sendSequence
        rw [SidecarPeerRole.expectedRemote_expectedRemote] at hother'
        have hkept : (w.channel role).counted (w.channel role).sendSequence
            (w.channel role).receiveSequence = w.channel role :=
          AuthenticatedSidecarChannel.counted_self rfl rfl
        rw [hkept] at hother'
        simpa [Function.update_of_ne hne, Function.update_of_ne hne.symm] using hother'

theorem framed_reachable (hexact : ∀ role message, (codec role).Exact message)
    (hw : (framedSystem mac codec).Reachable w) : w.Streams mac codec :=
  hw.invariant (fun _ hi => framed_initial hi) (fun _ _ _ hs h => framed_step hexact hs h)

/-- Framed-stream completeness: after any interleaving of seals in both directions, and of reads,
reading and opening what is left of either stream, however it is cut, yields the messages sealed
in order, takes every byte and retires neither channel. -/
theorem framed_stream (mac : Mac) (codec : SidecarPeerRole → Codec α)
    (hexact : ∀ role message, (codec role).Exact message) (w : FramedPeers α)
    (hw : (framedSystem mac codec).Reachable w) (role : SidecarPeerRole) (chunks : List Bytes)
    (hc : chunks.flatten = w.unread role) (n : Nat) (hn : (w.sealed role).length ≤ n) :
    (w.channel role).retired = false ∧ ∃ messages ch rest,
      receiveAll mac (codec role).deserialize n (w.channel role.expectedRemote) chunks =
        (messages, ch, rest) ∧
      w.opened role ++ messages = w.sealed role ∧ rest.flatten = [] ∧ ch.retired = false := by
  obtain ⟨pending, h⟩ := framed_reachable hexact hw role
  have hle : pending.length ≤ n := by
    rw [h.sealed_eq, List.length_append] at hn
    omega
  obtain ⟨ch, rest, hall, hrest, hlive⟩ := h.receiveAll (hexact role) hc hle
  exact ⟨h.delivers.live, pending, ch, rest, hall, h.sealed_eq.symm, hrest, hlive⟩

/-- The vector's channels before either peer has written. -/
def vectorPeers : FramedPeers SidecarHandshakeMessage where
  channel := vectorChannel
  unread _ := []
  sealed _ := []
  opened _ := []

theorem vectorPeers_complementary : vectorPeers.Complementary where
  role _ := rfl
  agree role := by
    cases role with
    | supervisor => exact ⟨rfl, rfl, rfl, rfl, rfl, rfl, rfl, rfl⟩
    | runtime => exact ⟨rfl, rfl, rfl, rfl, rfl, rfl, rfl, rfl⟩
  sendSequence _ := rfl
  receiveSequence _ := rfl
  unread _ := rfl
  sealed _ := rfl
  opened _ := rfl

/-- The messages of the vector in one stream, cut inside the first frame. -/
theorem vector_stream : ∃ w, (framedSystem vectorMac fun _ => vectorCodec).Reachable w ∧
    w.sealed .supervisor = [vectorOffer, vectorAccept] ∧ ∃ messages ch rest,
      receiveAll vectorMac vectorCodec.deserialize 2 (w.channel .runtime)
        [(w.unread .supervisor).take 7, (w.unread .supervisor).drop 7] = (messages, ch, rest) ∧
      messages = [vectorOffer, vectorAccept] ∧ rest.flatten = [] ∧ ch.retired = false := by
  have hfits := vector_honest.offer_fits
  have hfits' := vector_honest.accept_fits
  obtain ⟨frame, hseal⟩ : ∃ frame, (vectorChannel .supervisor).seal vectorMac
      (vectorCodec.serialize vectorOffer) = .ok (frame, (vectorChannel .supervisor).counted 1 0) :=
    ⟨_, AuthenticatedSidecarChannel.seal_eq_ok.mpr
      ⟨rfl, by decide, hfits.1, hfits.2, rfl, rfl⟩⟩
  obtain ⟨frame', ch', hseal'⟩ : ∃ frame ch,
      ((vectorChannel .supervisor).counted 1 0).seal vectorMac
        (vectorCodec.serialize vectorAccept) = .ok (frame, ch) :=
    ⟨_, _, AuthenticatedSidecarChannel.seal_eq_ok.mpr
      ⟨rfl, by decide, hfits'.1, hfits'.2, rfl, rfl⟩⟩
  obtain ⟨w₁, hw₁, hch, hsealed₁, hopened₁⟩ :
      ∃ w, (framedSystem vectorMac fun _ => vectorCodec).Reachable w ∧
        w.channel .supervisor = (vectorChannel .supervisor).counted 1 0 ∧
        w.sealed .supervisor = [vectorOffer] ∧ w.opened .supervisor = [] :=
    ⟨_, (System.Reachable.initial (S := framedSystem vectorMac fun _ => vectorCodec)
      vectorPeers_complementary).step (FramedStep.send (w := vectorPeers) hseal), rfl, rfl, rfl⟩
  rw [← hch] at hseal'
  obtain ⟨w, hw, hsealed, hopened⟩ : ∃ w, (framedSystem vectorMac fun _ => vectorCodec).Reachable w ∧
      w.sealed .supervisor = [vectorOffer, vectorAccept] ∧ w.opened .supervisor = [] :=
    ⟨_, hw₁.step (FramedStep.send hseal'), by simp [hsealed₁], hopened₁⟩
  obtain ⟨-, messages, ch, rest, hall, heq, hrest, hlive⟩ := framed_stream vectorMac
    (fun _ => vectorCodec) (fun _ => vectorCodec_exact) w hw .supervisor
    [(w.unread .supervisor).take 7, (w.unread .supervisor).drop 7] (by simp) 2
    (by rw [hsealed]; rfl)
  rw [hopened, hsealed] at heq
  exact ⟨w, hw, hsealed, messages, ch, rest, hall, heq, hrest, hlive⟩

end OpenclawNode.Sidecar
