import OpenclawNode.Sidecar.HonestHandshake

/-! Two authenticated peers hold the same selection, whatever the transport did. -/
namespace OpenclawNode.Sidecar

open BoundedWriter (Codec)
open Transition (System)

/-- Handshake agreement: an authenticated supervisor's selection is the one the runtime computed
from the supervisor's own offer, and two authenticated peers agree on the selection, on each
other's identity, on the state of their channels and on how many frames went each way. -/
theorem handshake_agreement (mac : Mac) (hc : Codec SidecarHandshakeMessage)
    (hx : ∀ message, hc.Exact message) (s : SidecarSession) (w : SidecarRun)
    (hw : (handshakeSystem mac hc s).Reachable w) :
    ∃ cs hs cr hr, w.party .supervisor = ⟨cs, .handshake hs⟩ ∧
      w.party .runtime = ⟨cr, .handshake hr⟩ ∧
      (hs.state = .authenticated → ∃ n m, hs.negotiated = some n ∧ .computed m ∈ w.log ∧
        negotiateSidecarProtocol (s.offer .runtime) (s.offer .supervisor) = .ok m ∧
        m.selection = n.selection) ∧
      (hs.state = .authenticated → hr.state = .authenticated → ∃ n m,
        hs.negotiated = some n ∧ hr.negotiated = some m ∧ n.selection = m.selection ∧
        cs.protocolMinor = n.protocolMinor ∧ cr.protocolMinor = n.protocolMinor ∧
        cs.maxFrameBytes = n.limits.maxFrameBytes ∧ cr.maxFrameBytes = n.limits.maxFrameBytes ∧
        n.remotePeer = hr.localOffer.peer ∧ m.remotePeer = hs.localOffer.peer ∧
        n.limits = hs.localOffer.limits.meet hr.localOffer.limits ∧
        n.limits.Within hs.localOffer.limits ∧ n.limits.Within hr.localOffer.limits ∧
        n.featureBits = hs.localOffer.featureBits &&& hr.localOffer.featureBits ∧
        cs.sendSequence = 1 ∧ cr.receiveSequence = 1 ∧
        cr.sendSequence = 1 ∧ cs.receiveSequence = 1) := by
  have hok : w.Ok mac hc ⟨fun _ => .fail, fun _ => none⟩ s := ok_handshake_reachable hx hw
  obtain ⟨cs, hs, hps⟩ := handshake_phase hw .supervisor
  obtain ⟨cr, hr, hpr⟩ := handshake_phase hw .runtime
  refine ⟨cs, hs, cr, hr, hps, hpr, ?_, ?_⟩
  · intro ha
    rcases hok.handshake hps with hf | hparty
    · simp [ha] at hf
    obtain ⟨n, hholds, -, hcomputed⟩ := hparty.progress.authenticated ha
    obtain ⟨m, hm⟩ := hcomputed rfl
    have hneg := hok.log.negotiates hm
    exact ⟨n, m, hholds.negotiated, hm, hneg, selection_symm hneg hholds.negotiates⟩
  · intro ha hb
    rcases hok.handshake hps with hf | hs'
    · simp [ha] at hf
    rcases hok.handshake hpr with hf | hr'
    · simp [hb] at hf
    obtain ⟨n, hn, ⟨hsend, hrecv⟩, -⟩ := hs'.progress.authenticated ha
    obtain ⟨m, hm, ⟨hsend', hrecv'⟩, -⟩ := hr'.progress.authenticated hb
    have hsel := selection_symm hn.negotiates hm.negotiates
    have hn' := negotiate_selection hn.negotiates
    have hm' := negotiate_selection hm.negotiates
    have hminor : n.protocolMinor = m.protocolMinor :=
      congrArg SidecarProtocolSelection.protocolMinor hsel
    have hlimits : n.limits = m.limits := congrArg SidecarProtocolSelection.limits hsel
    have hone : ∀ k : UInt64, k.toNat = 1 → k = 1 := fun k hk => UInt64.toNat_inj.mp hk
    rw [hs'.localOffer, hr'.localOffer]
    refine ⟨n, m, hn.negotiated, hm.negotiated, hsel, hn.protocolMinor, ?_, hn.maxFrameBytes, ?_,
      by rw [hn']; rfl, by rw [hm']; rfl, by rw [hn']; rfl, ?_, ?_, by rw [hn']; rfl,
      hone _ hsend, hone _ hrecv', hone _ hsend', hone _ hrecv⟩
    · rw [hm.protocolMinor, hminor]
    · rw [hm.maxFrameBytes, hlimits]
    · rw [hn']
      exact SidecarLimits.meet_within_left _ _
    · rw [hn']
      exact SidecarLimits.meet_within_right _ _

/-- The session, the offers and the authentication tags of the handshake vector. -/
def vectorSession : SidecarSession where
  key := ⟨Vector.replicate 32 0x3c⟩
  sessionId := "handshake-session"
  generation := 9
  maxFrameBytes _ := 4096
  offer role := {
    protocolMajor := 1
    protocolMinor := 0
    peer := {
      role
      name := match role with
        | .supervisor => "test-product"
        | .runtime => "openclaw-node"
      version := "1.0.0"
      artifactIdentity := "sha256:test-only" }
    featureBits := match role with
      | .supervisor => 7
      | .runtime => 11
    limits := {
      maxFrameBytes := match role with
        | .supervisor => 4096
        | .runtime => 2048
      maxInFlight := 8
      bootstrapTimeoutMs := 1000 } }
  offer_role _ := rfl

def vectorNegotiated (remote : SidecarPeerRole) : NegotiatedSidecarProtocol where
  protocolMajor := 1
  protocolMinor := 0
  featureBits := 3
  limits := ⟨2048, 8, 1000⟩
  remotePeer := (vectorSession.offer remote).peer

def vectorOffer : SidecarHandshakeMessage := .offer (vectorSession.offer .supervisor)

def vectorAccept : SidecarHandshakeMessage :=
  .accept (vectorSession.offer .runtime) (vectorNegotiated .supervisor).selection

/-- The two messages of the vector, as the serializer writes them. -/
def vectorCodec : Codec SidecarHandshakeMessage where
  serialize message :=
    if message = vectorOffer ∨ message = vectorAccept then message.serialize else .fail
  deserialize bytes :=
    if bytes = vectorOffer.serialize.output then some vectorOffer
    else if bytes = vectorAccept.serialize.output then some vectorAccept
    else none

def vectorTag (role : SidecarPeerRole) : Vector UInt8 32 :=
  match role with
  | .supervisor =>
    #v[0x34, 0xb1, 0x48, 0xf5, 0x6b, 0x8b, 0xbf, 0x3a, 0xa8, 0x17, 0xbd, 0xdb, 0xfa, 0xa3, 0xd4,
      0xd1, 0xa1, 0x9f, 0x47, 0x9f, 0x13, 0x2a, 0x95, 0x25, 0xf8, 0x99, 0xac, 0x23, 0x9d, 0x2d,
      0xba, 0xf5]
  | .runtime =>
    #v[0x0d, 0x8d, 0xc2, 0x88, 0x18, 0x3a, 0x8a, 0x09, 0x28, 0xb9, 0x01, 0x65, 0x1b, 0x4e, 0xc5,
      0xb8, 0xc8, 0x45, 0x26, 0xe3, 0x44, 0x14, 0x23, 0x8d, 0xb5, 0xd5, 0x40, 0xea, 0x09, 0x5c,
      0xe6, 0xd5]

def vectorBody (role : SidecarPeerRole) (message : SidecarHandshakeMessage) : BigEndian.Bytes :=
  frameBody 0 role.outgoingDirection 9 1 (Text.utf8 "handshake-session") message.serialize.output

/-- The keyed hash as the vector records it, and zero elsewhere. -/
def vectorMac : Mac where
  tag key message :=
    if key = vectorSession.key ∧ message = vectorBody .supervisor vectorOffer then
      (vectorTag .supervisor).toList
    else if key = vectorSession.key ∧ message = vectorBody .runtime vectorAccept then
      (vectorTag .runtime).toList
    else List.replicate 32 0
  length_tag key message := by
    split
    · rfl
    · split <;> rfl

def vectorChannel (role : SidecarPeerRole) : AuthenticatedSidecarChannel where
  instanceId := match role with
    | .supervisor => 1
    | .runtime => 2
  role := role
  protocolMinor := 0
  sessionId := "handshake-session"
  generation := 9
  key := vectorSession.key
  maxFrameBytes := 4096
  frameLimitLocked := false
  sendSequence := 0
  receiveSequence := 0
  retired := false
  session_valid := by decide
  generation_ne_zero := by decide
  frame_fits := by decide

def vectorStart : SidecarRun where
  party role := ⟨vectorChannel role, .handshake (SidecarHandshake.fresh (vectorSession.offer role))⟩
  frames := []
  log := []

theorem vectorCodec_exact (message : SidecarHandshakeMessage) : vectorCodec.Exact message := by
  intro hf
  by_cases ho : message = vectorOffer
  · subst ho
    simp [vectorCodec]
  · by_cases ha : message = vectorAccept
    · subst ha
      have hne : vectorAccept.serialize.output ≠ vectorOffer.serialize.output := by decide +kernel
      simp [vectorCodec, hne]
    · simp [vectorCodec, ho, ha] at hf

theorem vector_new (role : SidecarPeerRole) : SidecarHandshake.new (vectorSession.offer role) =
    .ok (SidecarHandshake.fresh (vectorSession.offer role)) := by
  cases role <;> rfl

theorem vectorStart_initial : SidecarRun.Initial vectorSession vectorStart := by
  refine ⟨?_, rfl, rfl⟩
  intro role
  cases role with
  | supervisor => exact ⟨vectorChannel .supervisor, _, 1, 2, rfl, rfl, vector_new .supervisor⟩
  | runtime => exact ⟨vectorChannel .runtime, _, 2, 3, rfl, rfl, vector_new .runtime⟩

theorem vector_honest : HonestStart vectorCodec vectorSession (vectorNegotiated .supervisor)
    (vectorNegotiated .runtime) (vectorChannel .supervisor) (vectorChannel .runtime) where
  supervisor := ⟨rfl, rfl, rfl, rfl, rfl, rfl, rfl, rfl, rfl, rfl, rfl⟩
  runtime := ⟨rfl, rfl, rfl, rfl, rfl, rfl, rfl, rfl, rfl, rfl, rfl⟩
  same_ceiling := rfl
  negotiates := rfl
  negotiates' := rfl
  offer_fits := by
    constructor
    · decide +kernel
    · decide +kernel
  accept_fits := by
    constructor
    · decide +kernel
    · decide +kernel
  minor := by decide
  above := by decide +kernel
  below := by decide

/-- Both peers of the vector authenticate, and agree on its selection. -/
theorem vector_agreement : ∃ w cs hs cr hr n m,
    (handshakeSystem vectorMac vectorCodec vectorSession).Reachable w ∧
    w.party .supervisor = ⟨cs, .handshake hs⟩ ∧ w.party .runtime = ⟨cr, .handshake hr⟩ ∧
    hs.state = .authenticated ∧ hr.state = .authenticated ∧ hs.negotiated = some n ∧
    hr.negotiated = some m ∧ n.selection = m.selection := by
  obtain ⟨w, cs, hs, cr, hr, hrun, hps, ⟨has, -, -⟩, hpr, ⟨har, -, -⟩⟩ := honest_handshake vectorMac
    (w := vectorStart) vectorCodec_exact vector_honest rfl rfl (vector_new .supervisor)
    (vector_new .runtime)
  have hw := (System.Reachable.initial (S := handshakeSystem vectorMac vectorCodec vectorSession)
    vectorStart_initial).run hrun
  obtain ⟨cs', hs', cr', hr', hps', hpr', -, hagree⟩ :=
    handshake_agreement vectorMac vectorCodec vectorCodec_exact vectorSession w hw
  rw [hps] at hps'
  rw [hpr] at hpr'
  cases hps'
  cases hpr'
  obtain ⟨n, m, hn, hm, hsel, -⟩ := hagree has har
  exact ⟨w, cs, hs, cr, hr, n, m, hw, hps, hpr, has, har, hn, hm, hsel⟩

end OpenclawNode.Sidecar
