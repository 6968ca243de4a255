import OpenclawNode.Sidecar.Handshake

/-! Every way a handshake call can end, one lemma for each method. -/
namespace OpenclawNode.Sidecar

open BigEndian (Bytes)
open BoundedWriter (Codec)

/-- The parts of a channel that no call changes. -/
structure AuthenticatedSidecarChannel.SameIdentity (ch ch' : AuthenticatedSidecarChannel) :
    Prop where
  instanceId : ch'.instanceId = ch.instanceId
  role : ch'.role = ch.role
  sessionId : ch'.sessionId = ch.sessionId
  generation : ch'.generation = ch.generation

namespace SidecarHandshake

variable {mac : Mac} {codec : Codec SidecarHandshakeMessage} {h h' : SidecarHandshake}
  {ch ch' : AuthenticatedSidecarChannel} {frame : Bytes} {α : Type}

/-- The handshake can be used with the channel: it is bound to it, or not bound yet. -/
def Binds (h : SidecarHandshake) (ch : AuthenticatedSidecarChannel) : Prop :=
  h.channelInstanceId = none ∨ h.channelInstanceId = some ch.instanceId

def bound (h : SidecarHandshake) (ch : AuthenticatedSidecarChannel) : SidecarHandshake :=
  { h with channelInstanceId := some ch.instanceId }

theorem bindChannel_cases (h : SidecarHandshake) (ch : AuthenticatedSidecarChannel) :
    (¬ h.Binds ch ∧ h.bindChannel ch = .error .channelInstanceMismatch) ∨
      (h.Binds ch ∧ h.bindChannel ch = .ok (h.bound ch)) := by
  unfold Binds bindChannel bound
  cases hc : h.channelInstanceId with
  | none => simp
  | some bound =>
    by_cases hb : bound = ch.instanceId
    · subst hb
      have hh : { h with channelInstanceId := some ch.instanceId } = h := by rw [← hc]
      simp [hh]
    · simp [hb]

/-- A handshake that has not been used yet. -/
def fresh (offer : SidecarProtocolOffer) : SidecarHandshake where
  localOffer := offer
  state := .starting
  negotiated := none
  pendingNegotiated := none
  channelInstanceId := none

theorem new_eq_ok {offer : SidecarProtocolOffer} (hn : new offer = .ok h) :
    validatePeerIdentity offer = .ok () ∧ h = fresh offer := by
  simp only [new, validateLocalOffer, Except.bind_eq_ok] at hn
  obtain ⟨_, ⟨_, hv, _⟩, hd⟩ := hn
  cases hd
  exact ⟨hv, rfl⟩

/-- The two ways a call fails: on a channel other than the bound one only that channel is retired,
on the bound one the handshake ends with it. -/
inductive Refused (h : SidecarHandshake) (ch : AuthenticatedSidecarChannel) :
    Except SidecarHandshakeError α × SidecarHandshake × AuthenticatedSidecarChannel → Prop
  | mismatch : ¬ h.Binds ch → Refused h ch (.error .channelInstanceMismatch, h, ch.retire)
  | failed {error ch'} : h.Binds ch → error ≠ .channelInstanceMismatch → ch.SameIdentity ch' →
      Refused h ch (.error error, (h.bound ch).failed, ch'.retire)

theorem refused_fail {error : SidecarHandshakeError} (hb : h.Binds ch)
    (he : error ≠ .channelInstanceMismatch) :
    Refused (α := α) h ch ((h.bound ch).fail ch error) :=
  .failed hb he ⟨rfl, rfl, rfl, rfl⟩

theorem start_cases (mac : Mac) (codec : Codec SidecarHandshakeMessage) (h : SidecarHandshake)
    (ch : AuthenticatedSidecarChannel) :
    Refused h ch (h.start mac codec ch) ∨
    (h.Binds ch ∧ ch.role = .supervisor ∧ h.localRole = .supervisor ∧ h.state = .starting ∧
      ∃ frame ch', ch.seal mac (codec.serialize (.offer h.localOffer)) = .ok (frame, ch') ∧
        h.start mac codec ch =
          (.ok frame, { h.bound ch with state := .awaitingAcceptance }, ch')) := by
  unfold start
  rcases h.bindChannel_cases ch with ⟨hb, hr⟩ | ⟨hb, hr⟩ <;> rw [hr] <;> dsimp only
  · exact Or.inl (.mismatch hb)
  · split
    · exact Or.inl (refused_fail hb (by simp))
    · next hrole =>
      split
      · exact Or.inl (refused_fail hb (by simp))
      · next hlocal =>
        split
        · exact Or.inl (refused_fail hb (by simp))
        · next hstate =>
          split
          · exact Or.inl (refused_fail hb (by simp))
          · next hseal =>
            simp only [ne_eq, not_not, bound] at hrole hlocal hstate
            exact Or.inr ⟨hb, by rw [hrole, hlocal], hlocal, hstate, _, _, hseal, rfl⟩

theorem receiveMessage_error {message : SidecarHandshakeMessage} {error : SidecarHandshakeError}
    (h : h'.receiveMessage mac codec ch message = .error error) :
    error ≠ .channelInstanceMismatch := by
  rintro rfl
  unfold receiveMessage at h
  split at h
  · simp [acceptSupervisor, validatePeerIdentity, Except.bind_eq_error, Except.ensure_eq_error,
      Except.mapError_eq_error, pure, Except.pure] at h
  · simp [confirmRuntime, validatePeerIdentity, Except.bind_eq_error, Except.ensure_eq_error,
      Except.mapError_eq_error, pure, Except.pure] at h
  · cases h

/-- The runtime answered an offer: it keeps the selection pending behind the sealed acceptance. -/
structure Accepts (mac : Mac) (codec : Codec SidecarHandshakeMessage) (h : SidecarHandshake)
    (ch : AuthenticatedSidecarChannel) (offer : SidecarProtocolOffer)
    (negotiated : NegotiatedSidecarProtocol) (acceptance : Bytes)
    (ch' : AuthenticatedSidecarChannel) : Prop where
  role : h.localRole = .runtime
  starting : h.state = .starting
  negotiates : negotiateSidecarProtocol h.localOffer offer = .ok negotiated
  seals : ch.seal mac (codec.serialize (.accept h.localOffer negotiated.selection)) =
    .ok (acceptance, ch')

/-- The supervisor found its own selection in the acceptance and applied it. -/
structure Confirms (h : SidecarHandshake) (ch : AuthenticatedSidecarChannel)
    (offer : SidecarProtocolOffer) (claimed : SidecarProtocolSelection)
    (negotiated : NegotiatedSidecarProtocol) (ch' : AuthenticatedSidecarChannel) : Prop where
  role : h.localRole = .supervisor
  awaiting : h.state = .awaitingAcceptance
  negotiates : negotiateSidecarProtocol h.localOffer offer = .ok negotiated
  claimed_eq : claimed = negotiated.selection
  applies : ch.applyNegotiatedProtocol negotiated = .ok ch'

theorem receiveMessage_eq_ok {message : SidecarHandshakeMessage} {reply : Option Bytes}
    (hr : h.receiveMessage mac codec ch message = .ok (reply, h', ch')) :
    (∃ offer negotiated acceptance, message = .offer offer ∧
      h.Accepts mac codec ch offer negotiated acceptance ch' ∧ reply = some acceptance ∧
      h' = { h with pendingNegotiated := some negotiated, state := .acceptancePending }) ∨
    (∃ offer claimed negotiated, message = .accept offer claimed ∧
      h.Confirms ch offer claimed negotiated ch' ∧ reply = none ∧
      h' = { h with negotiated := some negotiated, state := .authenticated }) := by
  unfold receiveMessage at hr
  split at hr
  · next offer hrole hstate =>
    simp only [acceptSupervisor, Except.bind_eq_ok, Except.mapError_eq_ok, Prod.exists] at hr
    obtain ⟨_, _, _, ⟨-, -, -, -, negotiated, hn, _, _, hs, hd⟩, hp⟩ := hr
    cases hd
    cases hp
    exact Or.inl ⟨offer, negotiated, _, rfl, ⟨hrole, hstate, hn, hs⟩, rfl, rfl⟩
  · next offer claimed hrole hstate =>
    simp only [confirmRuntime, Except.bind_eq_ok, Except.mapError_eq_ok, Except.ensure_eq_ok,
      Prod.exists] at hr
    obtain ⟨_, _, ⟨-, -, -, -, negotiated, hn, -, hclaim, _, ha, hd⟩, hp⟩ := hr
    cases hd
    cases hp
    exact Or.inr ⟨offer, claimed, negotiated, rfl, ⟨hrole, hstate, hn, hclaim, ha⟩, rfl, rfl⟩
  · cases hr

theorem receive_cases (mac : Mac) (codec : Codec SidecarHandshakeMessage) (h : SidecarHandshake)
    (ch : AuthenticatedSidecarChannel) (frame : Bytes) :
    Refused h ch (h.receive mac codec ch frame) ∨
    (h.Binds ch ∧ ch.role = h.localRole ∧ ch.retired = false ∧ ∃ payload message reply h' ch',
      ch.authenticatedPayload mac frame = .ok (ch.receiveSequence + 1, payload) ∧
      codec.deserialize payload = some message ∧
      (h.bound ch).receiveMessage mac codec { ch with receiveSequence := ch.receiveSequence + 1 }
        message = .ok (reply, h', ch') ∧
      h.receive mac codec ch frame = (.ok reply, h', ch')) := by
  unfold receive
  rcases h.bindChannel_cases ch with ⟨hb, hr⟩ | ⟨hb, hr⟩ <;> rw [hr] <;> dsimp only
  · exact Or.inl (.mismatch hb)
  · split
    · exact Or.inl (refused_fail hb (by simp))
    · next hrole =>
      rcases AuthenticatedSidecarChannel.open_cases mac codec.deserialize ch frame with
        ⟨_, ho⟩ | ⟨hlive, payload, message, hp, hd, ho⟩ | ⟨_, error, ho⟩ <;> rw [ho] <;> dsimp only
      · exact Or.inl (refused_fail hb (by simp))
      · split
        · next he => exact Or.inl (.failed hb (receiveMessage_error he) ⟨rfl, rfl, rfl, rfl⟩)
        · next hok =>
          exact Or.inr ⟨hb, not_not.mp hrole, hlive, _, _, _, _, _, hp, hd, hok, rfl⟩
      · exact Or.inl (.failed hb (by simp) ⟨rfl, rfl, rfl, rfl⟩)

theorem completeAcceptance_cases (h : SidecarHandshake) (ch : AuthenticatedSidecarChannel) :
    Refused h ch (h.completeAcceptance ch) ∨
    (h.Binds ch ∧ ch.role = .runtime ∧ ch.retired = false ∧ h.state = .acceptancePending ∧
      ∃ negotiated ch', h.pendingNegotiated = some negotiated ∧
        ch.applyNegotiatedProtocol negotiated = .ok ch' ∧
        h.completeAcceptance ch = (.ok (), { h.bound ch with
          pendingNegotiated := none, negotiated := some negotiated, state := .authenticated },
          ch')) := by
  unfold completeAcceptance
  rcases h.bindChannel_cases ch with ⟨hb, hr⟩ | ⟨hb, hr⟩ <;> rw [hr] <;> dsimp only
  · exact Or.inl (.mismatch hb)
  · split
    · exact Or.inl (refused_fail hb (by simp))
    · next hrole =>
      split
      · exact Or.inl (refused_fail hb (by simp))
      · next hlive =>
        split
        · exact Or.inl (refused_fail hb (by simp))
        · next hstate =>
          split
          · exact Or.inl (refused_fail hb (by simp))
          · next negotiated hp =>
            split
            · exact Or.inl (.failed hb (by simp) ⟨rfl, rfl, rfl, rfl⟩)
            · next ch' ha =>
              exact Or.inr ⟨hb, not_not.mp hrole, by simpa using hlive, not_not.mp hstate, _, _,
                hp, ha, rfl⟩

/-- Calls that find everything in order, the converse of the cases above. -/
theorem start_eq (hb : h.Binds ch) (hch : ch.role = .supervisor) (hrole : h.localRole = .supervisor)
    (hstate : h.state = .starting)
    (hs : ch.seal mac (codec.serialize (.offer h.localOffer)) = .ok (frame, ch')) :
    h.start mac codec ch =
      (.ok frame, { h.bound ch with state := .awaitingAcceptance }, ch') := by
  rcases h.bindChannel_cases ch with ⟨hn, -⟩ | ⟨-, hbind⟩
  · exact absurd hb hn
  · simp only [localRole] at hrole
    simp [start, hbind, bound, hch, hrole, hstate, hs]

theorem receive_eq (hb : h.Binds ch) (hch : ch.role = h.localRole)
    {message : SidecarHandshakeMessage} {reply : Option Bytes} {ch₁ : AuthenticatedSidecarChannel}
    (ho : ch.open mac codec.deserialize frame = (.ok message, ch₁))
    (hr : (h.bound ch).receiveMessage mac codec ch₁ message = .ok (reply, h', ch')) :
    h.receive mac codec ch frame = (.ok reply, h', ch') := by
  rcases h.bindChannel_cases ch with ⟨hn, -⟩ | ⟨-, hbind⟩
  · exact absurd hb hn
  · have hrole : ch.role = (h.bound ch).localOffer.peer.role := hch
    simp [receive, hbind, hrole, ho, hr]

theorem receiveMessage_offer_eq {offer : SidecarProtocolOffer} {n : NegotiatedSidecarProtocol}
    (hoffer : offer.peer.role = .supervisor) (hvalid : validatePeerIdentity offer = .ok ())
    (ha : h.Accepts mac codec ch offer n frame ch') :
    h.receiveMessage mac codec ch (.offer offer) = .ok (some frame,
      { h with pendingNegotiated := some n, state := .acceptancePending }, ch') := by
  obtain ⟨hrole, hstate, hneg, hs⟩ := ha
  simp only [localRole] at hrole
  unfold receiveMessage
  simp [hrole, hstate, acceptSupervisor, Except.ensure, hoffer, hvalid, hneg, hs,
    Except.mapError, bind, Except.bind, pure, Except.pure]

theorem receiveMessage_accept_eq {offer : SidecarProtocolOffer}
    {claimed : SidecarProtocolSelection} {n : NegotiatedSidecarProtocol}
    (hoffer : offer.peer.role = .runtime) (hvalid : validatePeerIdentity offer = .ok ())
    (hc : h.Confirms ch offer claimed n ch') :
    h.receiveMessage mac codec ch (.accept offer claimed) = .ok (none,
      { h with negotiated := some n, state := .authenticated }, ch') := by
  obtain ⟨hrole, hstate, hneg, hclaim, ha⟩ := hc
  simp only [localRole] at hrole
  unfold receiveMessage
  simp [hrole, hstate, confirmRuntime, Except.ensure, hoffer, hvalid, hneg, hclaim, ha,
    Except.mapError, bind, Except.bind, pure, Except.pure]

theorem completeAcceptance_eq {n : NegotiatedSidecarProtocol} (hb : h.Binds ch)
    (hch : ch.role = .runtime) (hlive : ch.retired = false) (hstate : h.state = .acceptancePending)
    (hpend : h.pendingNegotiated = some n) (ha : ch.applyNegotiatedProtocol n = .ok ch') :
    h.completeAcceptance ch = (.ok (), { h.bound ch with
      pendingNegotiated := none, negotiated := some n, state := .authenticated }, ch') := by
  rcases h.bindChannel_cases ch with ⟨hn, -⟩ | ⟨-, hbind⟩
  · exact absurd hb hn
  · simp [completeAcceptance, hbind, bound, hch, hlive, hstate, hpend, ha]

end SidecarHandshake
end OpenclawNode.Sidecar
