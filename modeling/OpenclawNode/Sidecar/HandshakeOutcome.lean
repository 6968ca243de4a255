import OpenclawNode.Sidecar.HandshakeAgreement

/-! How a handshake over an honest transport ends: both peers authenticated, or neither. -/
namespace OpenclawNode.Sidecar

open BigEndian (Bytes)
open BoundedWriter (Codec Serialization)
open Text (utf8)

/-- Both peers at the end of a handshake. -/
structure HandshakeEnds where
  supervisor : SidecarHandshake
  supervisorChannel : AuthenticatedSidecarChannel
  runtime : SidecarHandshake
  runtimeChannel : AuthenticatedSidecarChannel

/-- The transport delivers a frame, where there is one, and keeps the reply. -/
def SidecarHandshake.deliver (mac : Mac) (codec : Codec SidecarHandshakeMessage)
    (h : SidecarHandshake) (ch : AuthenticatedSidecarChannel) (frame : Option Bytes) :
    Option Bytes × SidecarHandshake × AuthenticatedSidecarChannel :=
  match frame with
  | none => (none, h, ch)
  | some frame =>
    let (reply, h, ch) := h.receive mac codec ch frame
    (reply.toOption.join, h, ch)

/-- The supervisor starts, the runtime answers and commits, and the supervisor takes the answer. -/
def HandshakeEnds.of (mac : Mac) (codec : Codec SidecarHandshakeMessage) (hs hr : SidecarHandshake)
    (cs cr : AuthenticatedSidecarChannel) : HandshakeEnds :=
  let (offer, hs, cs) := hs.start mac codec cs
  let (acceptance, hr, cr) := hr.deliver mac codec cr offer.toOption
  let (_, hr, cr) := hr.completeAcceptance cr
  let (_, hs, cs) := hs.deliver mac codec cs acceptance
  ⟨hs, cs, hr, cr⟩

/-- The selection that two offers imply. -/
def agreedSelection (a b : SidecarProtocolOffer) : SidecarProtocolSelection where
  protocolMajor := sidecarProtocolMajor
  protocolMinor := min a.protocolMinor b.protocolMinor
  featureBits := a.featureBits &&& b.featureBits
  limits := a.limits.meet b.limits

theorem negotiate_agreed {a b : SidecarProtocolOffer} {n : NegotiatedSidecarProtocol}
    (h : negotiateSidecarProtocol a b = .ok n) : n.selection = agreedSelection a b := by
  rw [negotiate_selection h]
  rfl

/-- What an offer brings of its own to a negotiation. -/
structure SidecarProtocolOffer.Negotiable (offer : SidecarProtocolOffer) : Prop where
  limits : offer.limits.validate = .ok offer.limits
  features : ¬ sidecarMaxFeatureBits < offer.featureBits
  major : offer.protocolMajor = sidecarProtocolMajor
  minor : ¬ sidecarProtocolMinor < offer.protocolMinor

theorem SidecarProtocolOffer.Negotiable.of_negotiates {a b : SidecarProtocolOffer}
    {n : NegotiatedSidecarProtocol} (h : negotiateSidecarProtocol a b = .ok n) : a.Negotiable := by
  simp only [negotiateSidecarProtocol, Except.bind_eq_ok, Except.ensure_eq_ok, not_or,
    not_not] at h
  obtain ⟨limits, hl, -, -, -, -, -, hfeatures, -, hmajor, -, hminor, -⟩ := h
  obtain ⟨-, -, -, rfl⟩ := SidecarLimits.validate_eq_ok.mp hl
  exact ⟨hl, hfeatures.1, hmajor.1, hminor⟩

/-- Two such offers of different roles imply a selection that both sides can apply. -/
theorem SidecarProtocolOffer.Negotiable.negotiates {a b : SidecarProtocolOffer}
    (ha : a.Negotiable) (hb : b.Negotiable) (hrole : a.peer.role ≠ b.peer.role) :
    ∃ n, negotiateSidecarProtocol a b = .ok n ∧ ¬ sidecarProtocolMinor < n.protocolMinor := by
  have hn : ∃ n, negotiateSidecarProtocol a b = .ok n := by
    simp [negotiateSidecarProtocol, Except.bind_eq_ok, Except.ensure_eq_ok, ha.limits, hb.limits,
      hrole, ha.features, hb.features, ha.major, hb.major, ha.minor, pure, Except.pure]
  obtain ⟨n, hn⟩ := hn
  refine ⟨n, hn, ?_⟩
  have hminor := ha.minor
  rw [negotiate_selection hn]
  rw [UInt16.lt_iff_toNat_lt] at hminor ⊢
  rw [UInt16.toNat_min]
  omega

namespace SidecarHandshake

variable {mac : Mac} {codec : Codec SidecarHandshakeMessage} {h h' : SidecarHandshake}
  {ch ch' ch₁ : AuthenticatedSidecarChannel} {frame : Bytes} {α : Type}

theorem negotiable_of_new {offer : SidecarProtocolOffer} (hn : new offer = .ok h) :
    offer.Negotiable := by
  simp only [new, validateLocalOffer, Except.bind_eq_ok, Except.mapError_eq_ok] at hn
  obtain ⟨-, ⟨-, -, n, hneg, -⟩, -⟩ := hn
  exact .of_negotiates hneg

/-- A refused call yields nothing, and does not authenticate. -/
theorem Refused.ends
    {r : Except SidecarHandshakeError α × SidecarHandshake × AuthenticatedSidecarChannel}
    (hr : Refused h ch r) :
    r.1.toOption = none ∧ (h.state ≠ .authenticated → r.2.1.state ≠ .authenticated) := by
  cases hr with
  | mismatch hb => exact ⟨rfl, id⟩
  | failed hb he hs => exact ⟨rfl, fun _ => by simp [SidecarHandshake.failed]⟩

/-- Without a pending selection there is nothing to commit. -/
theorem completeAcceptance_idle (hp : h.state ≠ .acceptancePending)
    (ha : h.state ≠ .authenticated) :
    (h.completeAcceptance ch).2.1.state ≠ .authenticated := by
  rcases h.completeAcceptance_cases ch with hr | ⟨-, -, -, hstate, -⟩
  · exact hr.ends.2 ha
  · exact absurd hstate hp

/-- A message that was opened is either answered or ends the handshake. -/
theorem receive_opened (hb : h.Binds ch) (hch : ch.role = h.localRole)
    {message : SidecarHandshakeMessage}
    (ho : ch.open mac codec.deserialize frame = (.ok message, ch₁)) :
    (∃ error, (h.bound ch).receiveMessage mac codec ch₁ message = .error error ∧
      h.receive mac codec ch frame = (h.bound ch).fail ch₁ error) ∨
    (∃ reply h' ch', (h.bound ch).receiveMessage mac codec ch₁ message = .ok (reply, h', ch') ∧
      h.receive mac codec ch frame = (.ok reply, h', ch')) := by
  cases hr : (h.bound ch).receiveMessage mac codec ch₁ message with
  | ok result =>
    obtain ⟨reply, h', ch'⟩ := result
    exact Or.inr ⟨reply, h', ch', rfl, receive_eq hb hch ho hr⟩
  | error error =>
    refine Or.inl ⟨error, rfl, ?_⟩
    rcases h.bindChannel_cases ch with ⟨hn, -⟩ | ⟨-, hbind⟩
    · exact absurd hb hn
    · have hrole : ch.role = (h.bound ch).localOffer.peer.role := hch
      simp [receive, hbind, hrole, ho, hr]

end SidecarHandshake

/-- The messages of a handshake fit under the ceiling, and so does what it selects. -/
structure HandshakeFits (codec : Codec SidecarHandshakeMessage) (sessionId : String)
    (ceiling : UInt32) (a b : SidecarProtocolOffer) : Prop where
  offer : (codec.serialize (.offer a)).failed = false ∧ fixedHeaderBytes +
    (utf8 sessionId).length + (codec.serialize (.offer a)).output.length + authTagBytes ≤
      ceiling.toNat
  accept : (codec.serialize (.accept b (agreedSelection b a))).failed = false ∧
    fixedHeaderBytes + (utf8 sessionId).length +
      (codec.serialize (.accept b (agreedSelection b a))).output.length + authTagBytes ≤
        ceiling.toNat
  above : minimumFrameBytes (utf8 sessionId).length ≤
    min a.limits.maxFrameBytes.toNat b.limits.maxFrameBytes.toNat
  below : min a.limits.maxFrameBytes.toNat b.limits.maxFrameBytes.toNat ≤ ceiling.toNat

theorem AuthenticatedSidecarChannel.CreatedWith.carries_iff {ch : AuthenticatedSidecarChannel}
    {i : UInt64} {role : SidecarPeerRole} {sessionId : String} {generation : UInt64}
    {key : SidecarSessionKey} {ceiling : UInt32} {payload : Serialization}
    (h : ch.CreatedWith i role sessionId generation key ceiling) :
    ch.Carries payload ↔ payload.failed = false ∧ fixedHeaderBytes + (utf8 sessionId).length +
      payload.output.length + authTagBytes ≤ ceiling.toNat := by
  have hbudget := ch.maxPayloadBytes_add
  rw [h.sessionId, h.maxFrameBytes] at hbudget
  refine and_congr_right fun _ => ⟨fun hl => ?_, fun hl => ?_⟩
  · omega
  · omega

theorem HandshakeEnds.of_eq {mac : Mac} {codec : Codec SidecarHandshakeMessage}
    {hs hr hs₁ hr₁ : SidecarHandshake} {cs cr cs₁ cr₁ : AuthenticatedSidecarChannel}
    {offer : Except SidecarHandshakeError Bytes} {acceptance : Option Bytes}
    (h₁ : hs.start mac codec cs = (offer, hs₁, cs₁))
    (h₂ : hr.deliver mac codec cr offer.toOption = (acceptance, hr₁, cr₁)) :
    HandshakeEnds.of mac codec hs hr cs cr =
      ⟨(hs₁.deliver mac codec cs₁ acceptance).2.1, (hs₁.deliver mac codec cs₁ acceptance).2.2,
        (hr₁.completeAcceptance cr₁).2.1, (hr₁.completeAcceptance cr₁).2.2⟩ := by
  simp [HandshakeEnds.of, h₁, h₂]

/-- The handshake ends with neither peer authenticated. -/
def HandshakeEnds.Neither (e : HandshakeEnds) : Prop :=
  e.supervisor.state ≠ .authenticated ∧ e.runtime.state ≠ .authenticated

/-- The handshake ends with both peers authenticated on live channels. -/
def HandshakeEnds.Both (e : HandshakeEnds) : Prop :=
  e.supervisor.AuthenticatedOn e.supervisorChannel ∧ e.runtime.AuthenticatedOn e.runtimeChannel

section

variable {mac : Mac} {codec : Codec SidecarHandshakeMessage} {so ro : SidecarProtocolOffer}
  {cs cr : AuthenticatedSidecarChannel} {i j generation : UInt64} {sessionId : String}
  {key : SidecarSessionKey} {ceiling : UInt32} {n m : NegotiatedSidecarProtocol}

/-- An offer that does not fit ends the handshake before a frame is sent. -/
theorem offer_refused {hs₁ : SidecarHandshake} {cs₁ : AuthenticatedSidecarChannel}
    {offer : Except SidecarHandshakeError Bytes}
    (h : (SidecarHandshake.fresh so).start mac codec cs = (offer, hs₁, cs₁))
    (hr : SidecarHandshake.Refused (SidecarHandshake.fresh so) cs (offer, hs₁, cs₁)) :
    (HandshakeEnds.of mac codec (.fresh so) (.fresh ro) cs cr).Neither := by
  obtain ⟨hnone, hstate⟩ := hr.ends
  have hdeliver : (SidecarHandshake.fresh ro).deliver mac codec cr offer.toOption =
      (none, .fresh ro, cr) := by
    rw [show offer.toOption = none from hnone]
    rfl
  rw [HandshakeEnds.of_eq h hdeliver]
  exact ⟨hstate (by simp [SidecarHandshake.fresh]), SidecarHandshake.completeAcceptance_idle
    (by simp [SidecarHandshake.fresh]) (by simp [SidecarHandshake.fresh])⟩

/-- The selection applies to a channel exactly when its ceiling is in range. -/
theorem apply_in_range {ch ch' : AuthenticatedSidecarChannel} {role : SidecarPeerRole}
    (hch : ch.CreatedWith i role sessionId generation key ceiling) {sent received : UInt64}
    (h : (ch.counted sent received).applyNegotiatedProtocol n = .ok ch') :
    minimumFrameBytes (utf8 sessionId).length ≤ n.limits.maxFrameBytes.toNat ∧
      n.limits.maxFrameBytes.toNat ≤ ceiling.toNat := by
  obtain ⟨-, hle, hf, -⟩ := AuthenticatedSidecarChannel.applyNegotiatedProtocol_eq_ok h
  rw [AuthenticatedSidecarChannel.counted_maxFrameBytes, hch.maxFrameBytes] at hle
  rw [AuthenticatedSidecarChannel.counted_sessionId, hch.sessionId] at hf
  exact ⟨hf, hle⟩

/-- The runtime that has answered commits exactly when the ceiling of its selection is in range. -/
theorem runtime_commits (hcr : cr.CreatedWith j .runtime sessionId generation key ceiling)
    {h : SidecarHandshake} (hb : h.Binds cr) (hstate : h.state = .acceptancePending)
    (hp : h.pendingNegotiated = some n) (hmajor : n.protocolMajor = sidecarProtocolMajor)
    (hminor : ¬ sidecarProtocolMinor < n.protocolMinor) (sent received : UInt64) :
    ((minimumFrameBytes (utf8 sessionId).length ≤ n.limits.maxFrameBytes.toNat ∧
        n.limits.maxFrameBytes.toNat ≤ ceiling.toNat) →
      (h.completeAcceptance (cr.counted sent received)).2.1.AuthenticatedOn
        (h.completeAcceptance (cr.counted sent received)).2.2) ∧
    ((h.completeAcceptance (cr.counted sent received)).2.1.state = .authenticated →
      minimumFrameBytes (utf8 sessionId).length ≤ n.limits.maxFrameBytes.toNat ∧
        n.limits.maxFrameBytes.toNat ≤ ceiling.toNat) := by
  constructor
  · rintro ⟨habove, hbelow⟩
    obtain ⟨ch', ha, hid, hlive⟩ := hcr.applies n hmajor hminor habove hbelow sent received
    have hbinds : h.Binds (cr.counted sent received) := hb
    have hrole : (cr.counted sent received).role = .runtime := hcr.role
    have hopen : (cr.counted sent received).retired = false := hcr.live
    rw [SidecarHandshake.completeAcceptance_eq hbinds hrole hopen hstate hp ha]
    exact ⟨rfl, congrArg some hid.symm, hlive⟩
  · intro hauth
    rcases h.completeAcceptance_cases (cr.counted sent received) with
      hr | ⟨-, -, -, -, n', ch', hp', ha, -⟩
    · exact absurd hauth (hr.ends.2 (by simp [hstate]))
    · rw [hp] at hp'
      cases hp'
      exact apply_in_range hcr ha

/-- The supervisor takes an acceptance of its own selection exactly when its ceiling is in range. -/
theorem supervisor_confirms (hcs : cs.CreatedWith i .supervisor sessionId generation key ceiling)
    {h : SidecarHandshake} (hb : h.Binds cs) (hrole : h.localRole = .supervisor)
    (hstate : h.state = .awaitingAcceptance) (hvalid : validatePeerIdentity ro = .ok ())
    (hro : ro.peer.role = .runtime) (hm : negotiateSidecarProtocol h.localOffer ro = .ok m)
    (hmajor : m.protocolMajor = sidecarProtocolMajor)
    (hminor : ¬ sidecarProtocolMinor < m.protocolMinor) {sent received next : UInt64}
    {frame : Bytes} (ho : (cs.counted sent received).open mac codec.deserialize frame =
      (.ok (.accept ro m.selection), cs.counted sent next)) :
    ((minimumFrameBytes (utf8 sessionId).length ≤ m.limits.maxFrameBytes.toNat ∧
        m.limits.maxFrameBytes.toNat ≤ ceiling.toNat) →
      (h.receive mac codec (cs.counted sent received) frame).2.1.AuthenticatedOn
        (h.receive mac codec (cs.counted sent received) frame).2.2) ∧
    ((h.receive mac codec (cs.counted sent received) frame).2.1.state = .authenticated →
      minimumFrameBytes (utf8 sessionId).length ≤ m.limits.maxFrameBytes.toNat ∧
        m.limits.maxFrameBytes.toNat ≤ ceiling.toNat) := by
  have hch : (cs.counted sent received).role = h.localRole := hcs.role.trans hrole.symm
  have hbinds : h.Binds (cs.counted sent received) := hb
  constructor
  · rintro ⟨habove, hbelow⟩
    obtain ⟨ch', ha, hid, hlive⟩ := hcs.applies m hmajor hminor habove hbelow sent next
    have hconfirms : (h.bound (cs.counted sent received)).Confirms (cs.counted sent next) ro
        m.selection m ch' := ⟨hrole, hstate, hm, rfl, ha⟩
    rw [SidecarHandshake.receive_eq hbinds hch ho
      (SidecarHandshake.receiveMessage_accept_eq hro hvalid hconfirms)]
    exact ⟨rfl, congrArg some hid.symm, hlive⟩
  · intro hauth
    rcases SidecarHandshake.receive_opened hbinds hch ho with
      ⟨error, -, hr⟩ | ⟨reply, h', ch', hr, -⟩
    · rw [hr] at hauth
      simp [SidecarHandshake.fail, SidecarHandshake.failed] at hauth
    · obtain ⟨_, _, _, hmsg, -⟩ | ⟨offer, claimed, m', hmsg, hconfirms, -⟩ :=
        SidecarHandshake.receiveMessage_eq_ok hr
      · cases hmsg
      · cases hmsg
        have hneg : negotiateSidecarProtocol h.localOffer ro = .ok m' := hconfirms.negotiates
        rw [hm] at hneg
        cases hneg
        exact apply_in_range hcs hconfirms.applies

/-- The handshake ends with both peers authenticated where everything fits, and else with neither. -/
theorem handshake_ends (mac : Mac) (hx : ∀ message, codec.Exact message)
    (hcs : cs.CreatedWith i .supervisor sessionId generation key ceiling)
    (hcr : cr.CreatedWith j .runtime sessionId generation key ceiling)
    (hso : so.peer.role = .supervisor) (hro : ro.peer.role = .runtime)
    (hvs : validatePeerIdentity so = .ok ()) (hvr : validatePeerIdentity ro = .ok ())
    (hns : so.Negotiable) (hnr : ro.Negotiable) :
    (HandshakeFits codec sessionId ceiling so ro ∧
      (HandshakeEnds.of mac codec (.fresh so) (.fresh ro) cs cr).Both) ∨
    (¬ HandshakeFits codec sessionId ceiling so ro ∧
      (HandshakeEnds.of mac codec (.fresh so) (.fresh ro) cs cr).Neither) := by
  obtain ⟨n, hn, hminor⟩ := hnr.negotiates hns (by simp [hso, hro])
  obtain ⟨m, hm, hminor'⟩ := hns.negotiates hnr (by simp [hso, hro])
  have hsel := negotiate_agreed hn
  have hsymm := selection_symm hn hm
  have hmajor : n.protocolMajor = sidecarProtocolMajor := by rw [negotiate_selection hn]
  have hmajor' : m.protocolMajor = sidecarProtocolMajor := by rw [negotiate_selection hm]
  have hlimit : n.limits.maxFrameBytes.toNat =
      min so.limits.maxFrameBytes.toNat ro.limits.maxFrameBytes.toNat := by
    rw [negotiate_selection hn]
    exact (UInt32.toNat_min ..).trans (Nat.min_comm _ _)
  have hlimit' : m.limits.maxFrameBytes.toNat =
      min so.limits.maxFrameBytes.toNat ro.limits.maxFrameBytes.toNat := by
    rw [negotiate_selection hm]
    exact UInt32.toNat_min ..
  have hzero := AuthenticatedSidecarChannel.counted_self hcs.sendSequence hcs.receiveSequence
  have hzero' := AuthenticatedSidecarChannel.counted_self hcr.sendSequence hcr.receiveSequence
  rcases SidecarHandshake.start_cases mac codec (.fresh so) cs with
    href | ⟨hb, -, -, -, offer, cs₁, hseal, hstart⟩
  · refine Or.inr ⟨fun hfits => ?_, offer_refused rfl href⟩
    obtain ⟨frame, hseal, -⟩ := (hcs.delivers hcr rfl).deliver mac 0 1 0 0
      (hcs.carries_iff.mpr hfits.offer) (hx _ hfits.offer.1) (by decide) (by decide)
    rw [hzero] at hseal
    have hstart := SidecarHandshake.start_eq (h := .fresh so) (Or.inl rfl) hcs.role hso rfl hseal
    have hnone := href.ends.1
    rw [hstart] at hnone
    cases hnone
  have hcarries : cs.Carries (codec.serialize (.offer so)) := by
    obtain ⟨-, -, hf, hl, -⟩ := AuthenticatedSidecarChannel.seal_eq_ok.mp hseal
    exact ⟨hf, hl⟩
  obtain ⟨frame, hseal₀, hopen⟩ := (hcs.delivers hcr rfl).deliver mac 0 1 0 0 hcarries
    (hx _ hcarries.1) (by decide) (by decide)
  rw [hzero] at hseal₀
  rw [hzero'] at hopen
  cases hseal₀.symm.trans hseal
  -- The runtime opens the offer: it answers it, or ends the handshake.
  have hlocal : cr.role = (SidecarHandshake.fresh ro).localRole := hcr.role.trans hro.symm
  rcases SidecarHandshake.receive_opened (h := .fresh ro) (Or.inl rfl) hlocal hopen with
    ⟨error, herror, hreceive⟩ | ⟨reply, hr₁, cr₁, hmessage, hreceive⟩
  · refine Or.inr ⟨fun hfits => ?_, ?_⟩
    · have haccept : cr.Carries (codec.serialize (.accept ro n.selection)) := by
        rw [hsel]
        exact hcr.carries_iff.mpr hfits.accept
      obtain ⟨acceptance, hseal', -⟩ := (hcr.delivers hcs rfl).deliver mac 0 1 1 1 haccept
        (hx _ haccept.1) (by decide) (by decide)
      have haccepts : ((SidecarHandshake.fresh ro).bound cr).Accepts mac codec (cr.counted 0 1) so n
          acceptance (cr.counted 1 1) := ⟨hro, rfl, hn, hseal'⟩
      rw [SidecarHandshake.receiveMessage_offer_eq hso hvs haccepts] at herror
      cases herror
    · have hdeliver : (SidecarHandshake.fresh ro).deliver mac codec cr
          (Except.toOption (.ok offer : Except SidecarHandshakeError Bytes)) =
          (none, ((SidecarHandshake.fresh ro).bound cr).failed, (cr.counted 0 1).retire) := by
        simp [SidecarHandshake.deliver, Except.toOption, hreceive, SidecarHandshake.fail]
      rw [HandshakeEnds.of_eq hstart hdeliver]
      refine ⟨by simp [SidecarHandshake.deliver], SidecarHandshake.completeAcceptance_idle ?_ ?_⟩
      · simp [SidecarHandshake.failed]
      · simp [SidecarHandshake.failed]
  obtain ⟨_, n', acceptance, hmsg, haccepts, rfl, rfl⟩ | ⟨_, _, _, hmsg, -⟩ :=
    SidecarHandshake.receiveMessage_eq_ok hmessage
  · cases hmsg
    have hneg : negotiateSidecarProtocol ro so = .ok n' := haccepts.negotiates
    rw [hn] at hneg
    cases hneg
    have hseal' : (cr.counted 0 1).seal mac (codec.serialize (.accept ro n.selection)) =
      .ok (acceptance, cr₁) := haccepts.seals
    have haccept : cr.Carries (codec.serialize (.accept ro n.selection)) := by
      obtain ⟨-, -, hf, hl, -⟩ := AuthenticatedSidecarChannel.seal_eq_ok.mp hseal'
      exact ⟨hf, hl⟩
    obtain ⟨frame', hseal'', hopen'⟩ := (hcr.delivers hcs rfl).deliver mac 0 1 1 1 haccept
      (hx _ haccept.1) (by decide) (by decide)
    cases hseal''.symm.trans hseal'
    have hdeliver : (SidecarHandshake.fresh ro).deliver mac codec cr
        (Except.toOption (.ok offer : Except SidecarHandshakeError Bytes)) =
        (some acceptance, { (SidecarHandshake.fresh ro).bound cr with
          pendingNegotiated := some n, state := .acceptancePending }, cr.counted 1 1) := by
      simp [SidecarHandshake.deliver, Except.toOption, hreceive]
    have hcommits := runtime_commits hcr (h := { (SidecarHandshake.fresh ro).bound cr with
      pendingNegotiated := some n, state := .acceptancePending }) (Or.inr rfl) rfl rfl hmajor hminor
      1 1
    rw [hsymm] at hopen'
    have hconfirms := supervisor_confirms hcs (h := { (SidecarHandshake.fresh so).bound cs with
      state := .awaitingAcceptance }) (Or.inr rfl) hso rfl hvr hro hm hmajor' hminor' hopen'
    rw [hlimit] at hcommits
    rw [hlimit'] at hconfirms
    rw [HandshakeEnds.of_eq hstart hdeliver]
    by_cases hrange : minimumFrameBytes (utf8 sessionId).length ≤
        min so.limits.maxFrameBytes.toNat ro.limits.maxFrameBytes.toNat ∧
      min so.limits.maxFrameBytes.toNat ro.limits.maxFrameBytes.toNat ≤ ceiling.toNat
    · refine Or.inl ⟨⟨hcs.carries_iff.mp hcarries, ?_, hrange.1, hrange.2⟩,
        hconfirms.1 hrange, hcommits.1 hrange⟩
      rw [← hsel]
      exact hcr.carries_iff.mp haccept
    · exact Or.inr ⟨fun hfits => hrange ⟨hfits.above, hfits.below⟩,
        fun ha => hrange (hconfirms.2 ha), fun ha => hrange (hcommits.2 ha)⟩
  · cases hmsg

end

/-- Between two peers of accepted offers on fresh channels of one session, a handshake authenticates
both exactly when its messages and its selection fit under the ceiling, and neither otherwise. -/
theorem handshake_succeeds_exactly (mac : Mac) (codec : Codec SidecarHandshakeMessage)
    (hx : ∀ message, codec.Exact message) (so ro : SidecarProtocolOffer) (hs hr : SidecarHandshake)
    (hnew : SidecarHandshake.new so = .ok hs) (hnew' : SidecarHandshake.new ro = .ok hr)
    (hso : so.peer.role = .supervisor) (hro : ro.peer.role = .runtime) (sessionId : String)
    (generation : UInt64) (key : SidecarSessionKey) (ceiling : UInt32) (i i' j j' : UInt64)
    (cs cr : AuthenticatedSidecarChannel)
    (hcs : AuthenticatedSidecarChannel.new i .supervisor sessionId generation key ceiling =
      .ok (cs, i'))
    (hcr : AuthenticatedSidecarChannel.new j .runtime sessionId generation key ceiling =
      .ok (cr, j')) :
    let ends := HandshakeEnds.of mac codec hs hr cs cr
    (ends.supervisor.state = .authenticated ∧ ends.runtime.state = .authenticated ↔
      HandshakeFits codec sessionId ceiling so ro) ∧
    (HandshakeFits codec sessionId ceiling so ro →
      ends.supervisor.AuthenticatedOn ends.supervisorChannel ∧
        ends.runtime.AuthenticatedOn ends.runtimeChannel) ∧
    (¬ HandshakeFits codec sessionId ceiling so ro →
      ends.supervisor.state ≠ .authenticated ∧ ends.runtime.state ≠ .authenticated) := by
  obtain ⟨hvs, rfl⟩ := SidecarHandshake.new_eq_ok hnew
  obtain ⟨hvr, rfl⟩ := SidecarHandshake.new_eq_ok hnew'
  obtain ⟨-, -, hcs⟩ := AuthenticatedSidecarChannel.new_eq_ok hcs
  obtain ⟨-, -, hcr⟩ := AuthenticatedSidecarChannel.new_eq_ok hcr
  have hends := handshake_ends mac hx hcs hcr hso hro hvs hvr
    (SidecarHandshake.negotiable_of_new hnew) (SidecarHandshake.negotiable_of_new hnew')
  rcases hends with ⟨hfits, hboth⟩ | ⟨hn, hneither⟩
  · exact ⟨⟨fun _ => hfits, fun _ => ⟨hboth.1.state, hboth.2.state⟩⟩, fun _ => hboth,
      fun hn => absurd hfits hn⟩
  · exact ⟨⟨fun ha => absurd ha.1 hneither.1, fun hfits => absurd hfits hn⟩,
      fun hfits => absurd hfits hn, fun _ => hneither⟩

/-- The handshake of the vector fits, so it authenticates both peers. -/
theorem vector_handshake_succeeds :
    (HandshakeEnds.of vectorMac vectorCodec (.fresh (vectorSession.offer .supervisor))
      (.fresh (vectorSession.offer .runtime)) (vectorChannel .supervisor)
      (vectorChannel .runtime)).Both :=
  (handshake_succeeds_exactly vectorMac vectorCodec vectorCodec_exact _ _ _ _
    (vector_new .supervisor) (vector_new .runtime) rfl rfl "handshake-session" 9 vectorSession.key
    4096 1 2 2 3 (vectorChannel .supervisor) (vectorChannel .runtime) rfl rfl).2.1
    ⟨by decide +kernel, by decide +kernel, by decide +kernel, by decide +kernel⟩

end OpenclawNode.Sidecar
