import OpenclawNode.Sidecar.HandshakeSteps

/-! When the transport delivers, compatible offers that fit lead both peers to the end. -/
namespace OpenclawNode.Sidecar

open BoundedWriter (Codec)
open Transition (System)

variable {mac : Mac} {hc : Codec SidecarHandshakeMessage} {s : SidecarSession} {w : SidecarRun}

/-- A message that a channel has room for. -/
def AuthenticatedSidecarChannel.Carries (ch : AuthenticatedSidecarChannel)
    (payload : BoundedWriter.Serialization) : Prop :=
  payload.failed = false ∧ payload.output.length ≤ ch.maxPayloadBytes

/-- Two peers whose offers imply a selection, on fresh channels that carry both messages and can
take the negotiated ceiling. -/
structure HonestStart (hc : Codec SidecarHandshakeMessage) (s : SidecarSession)
    (n m : NegotiatedSidecarProtocol) (cs cr : AuthenticatedSidecarChannel) : Prop where
  supervisor : cs.CreatedWith cs.instanceId .supervisor s.sessionId s.generation s.key
    (s.maxFrameBytes .supervisor)
  runtime : cr.CreatedWith cr.instanceId .runtime s.sessionId s.generation s.key
    (s.maxFrameBytes .runtime)
  same_ceiling : s.maxFrameBytes .runtime = s.maxFrameBytes .supervisor
  negotiates : negotiateSidecarProtocol (s.offer .runtime) (s.offer .supervisor) = .ok n
  negotiates' : negotiateSidecarProtocol (s.offer .supervisor) (s.offer .runtime) = .ok m
  offer_fits : cs.Carries (hc.serialize (.offer (s.offer .supervisor)))
  accept_fits : cr.Carries (hc.serialize (.accept (s.offer .runtime) n.selection))
  minor : ¬ sidecarProtocolMinor < n.protocolMinor
  above : minimumFrameBytes (Text.utf8 s.sessionId).length ≤ n.limits.maxFrameBytes.toNat
  below : n.limits.maxFrameBytes.toNat ≤ (s.maxFrameBytes .supervisor).toNat

/-- The channel after it has sealed and accepted that many frames. -/
def AuthenticatedSidecarChannel.counted (ch : AuthenticatedSidecarChannel)
    (sent received : UInt64) : AuthenticatedSidecarChannel :=
  { ch with sendSequence := sent, receiveSequence := received }

theorem AuthenticatedSidecarChannel.counted_self {ch : AuthenticatedSidecarChannel}
    {sent received : UInt64} (hs : ch.sendSequence = sent) (hr : ch.receiveSequence = received) :
    ch.counted sent received = ch := by
  subst hs hr
  rfl

/-- Two live channels of which the second takes what the first seals. -/
structure Delivers (cs cr : AuthenticatedSidecarChannel) : Prop where
  live : cs.retired = false
  live' : cr.retired = false
  role : cr.role.expectedRemote = cs.role
  key : cr.key = cs.key
  sessionId : cr.sessionId = cs.sessionId
  generation : cr.generation = cs.generation
  protocolMinor : cr.protocolMinor = cs.protocolMinor
  maxFrameBytes : cr.maxFrameBytes = cs.maxFrameBytes

/-- What fits and decodes is sealed under the next number and opened under it. -/
theorem Delivers.deliver {cs cr : AuthenticatedSidecarChannel} (h : Delivers cs cr) (mac : Mac)
    (sent next received received' : UInt64) {α : Type} {decode : BigEndian.Bytes → Option α}
    {payload : BoundedWriter.Serialization} {message : α} (hf : cs.Carries payload)
    (hd : decode payload.output = some message) (hroom : sent.toNat + 1 < 2 ^ 64)
    (hnext : sent + 1 = next) :
    ∃ frame, (cs.counted sent received).seal mac payload =
        .ok (frame, cs.counted next received) ∧
      (cr.counted received' sent).open mac decode frame =
        (.ok message, cr.counted received' next) := by
  subst hnext
  refine ⟨_, AuthenticatedSidecarChannel.seal_eq_ok.mpr
    ⟨h.live, hroom, hf.1, hf.2, rfl, rfl⟩, ?_⟩
  have hfit : payload.output.length ≤ (cr.counted received' sent).maxPayloadBytes := by
    have hmax : (cr.counted received' sent).maxPayloadBytes = cs.maxPayloadBytes := by
      simp only [AuthenticatedSidecarChannel.maxPayloadBytes, AuthenticatedSidecarChannel.counted,
        h.maxFrameBytes, h.sessionId]
    exact hmax ▸ hf.2
  have hlive : (cr.counted received' sent).retired = false := h.live'
  have ho := AuthenticatedSidecarChannel.open_frame mac hlive hroom hfit hd
  simpa [AuthenticatedSidecarChannel.counted, AuthenticatedSidecarChannel.body, h.key, h.role,
    h.sessionId, h.generation, h.protocolMinor] using ho

@[simp] theorem AuthenticatedSidecarChannel.counted_sessionId (ch : AuthenticatedSidecarChannel)
    (sent received : UInt64) : (ch.counted sent received).sessionId = ch.sessionId := rfl

@[simp] theorem AuthenticatedSidecarChannel.counted_maxFrameBytes
    (ch : AuthenticatedSidecarChannel) (sent received : UInt64) :
    (ch.counted sent received).maxFrameBytes = ch.maxFrameBytes := rfl

@[simp] theorem AuthenticatedSidecarChannel.counted_frameLimitLocked
    (ch : AuthenticatedSidecarChannel) (sent received : UInt64) :
    (ch.counted sent received).frameLimitLocked = ch.frameLimitLocked := rfl

theorem AuthenticatedSidecarChannel.CreatedWith.delivers {cs cr : AuthenticatedSidecarChannel}
    {i j : UInt64} {role role' : SidecarPeerRole} {sessionId : String} {generation : UInt64}
    {key : SidecarSessionKey} {maxFrameBytes : UInt32}
    (hs : cs.CreatedWith i role sessionId generation key maxFrameBytes)
    (hr : cr.CreatedWith j role' sessionId generation key maxFrameBytes)
    (hrole : role'.expectedRemote = role) : Delivers cs cr where
  live := hs.live
  live' := hr.live
  role := by rw [hr.role, hs.role, hrole]
  key := by rw [hr.key, hs.key]
  sessionId := by rw [hr.sessionId, hs.sessionId]
  generation := by rw [hr.generation, hs.generation]
  protocolMinor := by rw [hr.protocolMinor, hs.protocolMinor]
  maxFrameBytes := by rw [hr.maxFrameBytes, hs.maxFrameBytes]

/-- A channel that has only counted frames since it was created takes a selection in range. -/
theorem AuthenticatedSidecarChannel.CreatedWith.applies {ch : AuthenticatedSidecarChannel}
    {i : UInt64} {role : SidecarPeerRole} {sessionId : String} {generation : UInt64}
    {key : SidecarSessionKey} {maxFrameBytes : UInt32}
    (hch : ch.CreatedWith i role sessionId generation key maxFrameBytes)
    (n : NegotiatedSidecarProtocol) (hmajor : n.protocolMajor = sidecarProtocolMajor)
    (hminor : ¬ sidecarProtocolMinor < n.protocolMinor)
    (habove : minimumFrameBytes (Text.utf8 sessionId).length ≤ n.limits.maxFrameBytes.toNat)
    (hbelow : n.limits.maxFrameBytes.toNat ≤ maxFrameBytes.toNat) (sent received : UInt64) :
    ∃ ch', (ch.counted sent received).applyNegotiatedProtocol n = .ok ch' ∧
      ch'.instanceId = ch.instanceId ∧ ch'.retired = false := by
  have hunlocked : (ch.counted sent received).frameLimitLocked = false := hch.unlocked
  refine ⟨_, AuthenticatedSidecarChannel.applyNegotiatedProtocol_eq hmajor hminor hunlocked
    ?_ ?_, rfl, hch.live⟩
  · simpa [hch.sessionId] using habove
  · simpa [hch.maxFrameBytes] using hbelow

/-- An authenticated handshake, bound to a live channel. -/
structure SidecarHandshake.AuthenticatedOn (h : SidecarHandshake)
    (ch : AuthenticatedSidecarChannel) : Prop where
  state : h.state = .authenticated
  bound : h.channelInstanceId = some ch.instanceId
  live : ch.retired = false

/-- One step as a run, with what is needed of its end. -/
theorem reached {α : Type} (S : System SidecarRun α) {w' : SidecarRun} {a : α}
    {role role' : SidecarPeerRole} {p p' : SidecarParty} {frame : BigEndian.Bytes}
    (hs : S.Step w a w') (hp : w'.party role = p) (hp' : w'.party role' = p')
    (hf : frame ∈ w'.frames) :
    ∃ w', S.Run w w' ∧ w'.party role = p ∧ w'.party role' = p' ∧ frame ∈ w'.frames :=
  ⟨w', System.Run.single hs, hp, hp', hf⟩

/-- The honest run ends with both peers authenticated. -/
theorem honest_handshake (mac : Mac) (hx : ∀ message, hc.Exact message)
    {n m : NegotiatedSidecarProtocol} {cs cr : AuthenticatedSidecarChannel} {hs hr : SidecarHandshake}
    (hstart : HonestStart hc s n m cs cr)
    (hps : w.party .supervisor = ⟨cs, .handshake hs⟩)
    (hpr : w.party .runtime = ⟨cr, .handshake hr⟩)
    (hnew : SidecarHandshake.new (s.offer .supervisor) = .ok hs)
    (hnew' : SidecarHandshake.new (s.offer .runtime) = .ok hr) :
    ∃ w' cs' hs' cr' hr', (handshakeSystem mac hc s).Run w w' ∧
      w'.party .supervisor = ⟨cs', .handshake hs'⟩ ∧ hs'.AuthenticatedOn cs' ∧
      w'.party .runtime = ⟨cr', .handshake hr'⟩ ∧ hr'.AuthenticatedOn cr' := by
  obtain ⟨hvs, rfl⟩ := SidecarHandshake.new_eq_ok hnew
  obtain ⟨hvr, rfl⟩ := SidecarHandshake.new_eq_ok hnew'
  have hcs := hstart.supervisor
  have hcr := hstart.runtime
  rw [hstart.same_ceiling] at hcr
  have hrole := s.offer_role
  have hsel := selection_symm hstart.negotiates hstart.negotiates'
  have hn := negotiate_selection hstart.negotiates
  have hm := negotiate_selection hstart.negotiates'
  have hne : SidecarPeerRole.runtime ≠ .supervisor := by decide
  have hlocal : ∀ role, (SidecarHandshake.fresh (s.offer role)).localRole = role := hrole
  have hrole_s : ∀ a b, (cs.counted a b).role = .supervisor := fun _ _ => hcs.role
  have hrole_r : ∀ a b, (cr.counted a b).role = .runtime := fun _ _ => hcr.role
  have hlive_r : (cr.counted 1 1).retired = false := hcr.live
  have hdeliver : Delivers cs cr := hcs.delivers hcr rfl
  have hdeliver' : Delivers cr cs := hcr.delivers hcs rfl
  rw [← AuthenticatedSidecarChannel.counted_self hcs.sendSequence hcs.receiveSequence] at hps
  rw [← AuthenticatedSidecarChannel.counted_self hcr.sendSequence hcr.receiveSequence] at hpr
  obtain ⟨offer, hseal, hopen⟩ := hdeliver.deliver mac 0 1 0 0 hstart.offer_fits
    (hx _ hstart.offer_fits.1) (by decide) (by decide)
  obtain ⟨acceptance, hseal', hopen'⟩ := hdeliver'.deliver mac 0 1 1 1 hstart.accept_fits
    (hx _ hstart.accept_fits.1) (by decide) (by decide)
  -- The offer, sealed by the supervisor and answered by the runtime.
  have hstep₁ := HandshakeStep.start (s := s) hps
    (SidecarHandshake.start_eq (Or.inl rfl) (hrole_s 0 0) (hlocal .supervisor) rfl hseal)
  obtain ⟨w₁, hrun₁, hps₁, hpr₁, hoffer⟩ := reached (handshakeSystem mac hc s) hstep₁
    (SidecarRun.after_self _ _ _ _ _) (SidecarRun.after_ne _ _ hne hpr)
    (List.mem_append_right _ (List.mem_singleton_self _))
  have hmessage := SidecarHandshake.receiveMessage_offer_eq
    (h := (SidecarHandshake.fresh (s.offer .runtime)).bound (cr.counted 0 0)) (hrole .supervisor)
    hvs ⟨hlocal .runtime, rfl, hstart.negotiates, hseal'⟩
  have hstep₂ := HandshakeStep.receive (s := s) hpr₁ (fun _ => hoffer)
    (SidecarHandshake.receive_eq (Or.inl rfl) ((hrole_r 0 0).trans (hlocal .runtime).symm) hopen
      hmessage)
  obtain ⟨w₂, hrun₂, hpr₂, hps₂, hacceptance⟩ := reached (handshakeSystem mac hc s) hstep₂
    (SidecarRun.after_self _ _ _ _ _) (SidecarRun.after_ne _ _ hne.symm hps₁)
    (List.mem_append_right _ (List.mem_singleton_self acceptance))
  -- The acceptance is written, so the runtime commits; then the supervisor confirms it.
  obtain ⟨cr', happly, hid', hlive'⟩ := hcr.applies n (by rw [hn]) hstart.minor hstart.above
    hstart.below 1 1
  have hstep₃ : HandshakeStep mac hc s w₂ (.completeAcceptance .runtime) _ :=
    .completeAcceptance hpr₂
      (SidecarHandshake.completeAcceptance_eq (Or.inr rfl) (hrole_r 1 1) hlive_r rfl rfl happly)
  obtain ⟨w₃, hrun₃, hpr₃, hps₃, hacceptance⟩ := reached (handshakeSystem mac hc s) hstep₃
    (SidecarRun.set_self _ _ _) ((SidecarRun.set_ne _ _ hne.symm).trans hps₂) hacceptance
  have hlimits : m.limits = n.limits := (congrArg SidecarProtocolSelection.limits hsel).symm
  have hminor : m.protocolMinor = n.protocolMinor :=
    (congrArg SidecarProtocolSelection.protocolMinor hsel).symm
  obtain ⟨cs', happly', hid, hlive⟩ := hcs.applies m (by rw [hm])
    (by rw [hminor]; exact hstart.minor) (by rw [hlimits]; exact hstart.above)
    (by rw [hlimits]; exact hstart.below) 1 1
  have hbinds : SidecarHandshake.Binds
      { (SidecarHandshake.fresh (s.offer .supervisor)).bound (cs.counted 0 0) with
        state := .awaitingAcceptance } (cs.counted 1 0) := Or.inr rfl
  have hstep₄ := HandshakeStep.receive (s := s) hps₃ (fun _ => hacceptance)
    (SidecarHandshake.receive_eq hbinds ((hrole_s 1 0).trans (hlocal .supervisor).symm) hopen'
      (SidecarHandshake.receiveMessage_accept_eq (hrole .runtime) hvr
        ⟨hlocal .supervisor, rfl, hstart.negotiates', hsel, happly'⟩))
  obtain ⟨w₄, hrun₄, hps₄, hpr₄, -⟩ := reached (handshakeSystem mac hc s) hstep₄
    (SidecarRun.after_self _ _ _ _ _) (SidecarRun.after_ne _ _ hne hpr₃)
    (List.mem_append_left _ hacceptance)
  exact ⟨w₄, _, _, _, _, hrun₁.trans (hrun₂.trans (hrun₃.trans hrun₄)), hps₄,
    ⟨rfl, congrArg some hid.symm, hlive⟩, hpr₄, ⟨rfl, congrArg some hid'.symm, hlive'⟩⟩

end OpenclawNode.Sidecar
