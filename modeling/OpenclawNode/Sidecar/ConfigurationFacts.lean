import OpenclawNode.Sidecar.Configuration

/-! Every way a configuration call can end, one lemma for each method. -/
namespace OpenclawNode.Sidecar

open BigEndian (Bytes)
open BoundedWriter (Codec)

namespace SidecarConfigurationExchange

variable {mac : Mac} {codec : Codec SidecarRuntimeMessage} {e e' : SidecarConfigurationExchange}
  {ch ch' : AuthenticatedSidecarChannel} {c : SidecarRuntimeConfiguration} {α : Type}

/-- What binding an exchange to a handshake takes over from it. -/
theorem new_eq_ok {h : SidecarHandshake} (hn : new h = .ok e) :
    ∃ negotiated channelInstanceId, h.state = .authenticated ∧ h.negotiated = some negotiated ∧
      h.channelInstanceId = some channelInstanceId ∧ e = {
        role := h.localRole
        channelInstanceId
        selection := negotiated.selection
        runtimeVersion :=
          match h.localRole with
          | .runtime => h.localOffer.peer.version
          | .supervisor => negotiated.remotePeer.version
        state :=
          match h.localRole with
          | .supervisor => .starting
          | .runtime => .awaitingConfiguration
        configuration := none
        expectedManifest := none
        maxPayloadBytes := none } := by
  simp only [new, Except.bind_eq_ok, Except.ensure_eq_ok, Except.elim_eq_ok] at hn
  obtain ⟨-, hstate, negotiated, hneg, instanceId, hid, hd⟩ := hn
  cases hd
  exact ⟨negotiated, instanceId, hstate, hneg, hid, rfl⟩

/-- The two ways a call fails: on a channel other than the bound one only that channel is retired,
on the bound one the exchange ends with it. -/
inductive Refused (e : SidecarConfigurationExchange) (ch : AuthenticatedSidecarChannel) :
    Except SidecarConfigurationError α × SidecarConfigurationExchange ×
      AuthenticatedSidecarChannel → Prop
  | mismatch : ch.instanceId ≠ e.channelInstanceId →
      Refused e ch (.error .channelInstanceMismatch, e, ch.retire)
  | failed {error ch'} : ch.instanceId = e.channelInstanceId →
      error ≠ .channelInstanceMismatch → ch.SameIdentity ch' →
      Refused e ch (.error error, e.failed, ch'.retire)

theorem refused_fail {error : SidecarConfigurationError} (hb : ch.instanceId = e.channelInstanceId)
    (he : error ≠ .channelInstanceMismatch) : Refused (α := α) e ch (e.fail ch error) :=
  .failed hb he ⟨rfl, rfl, rfl, rfl⟩

theorem start_cases (mac : Mac) (codec : Codec SidecarRuntimeMessage)
    (e : SidecarConfigurationExchange) (ch : AuthenticatedSidecarChannel)
    (c : SidecarRuntimeConfiguration) :
    Refused e ch (e.start mac codec ch c) ∨
    (ch.instanceId = e.channelInstanceId ∧ e.role = .supervisor ∧ ch.role = .supervisor ∧
      e.state = .starting ∧ e.validate codec c ch.lockFrameLimit = .ok () ∧ ∃ frame ch',
        ch.lockFrameLimit.seal mac (codec.serialize (.configure c)) = .ok (frame, ch') ∧
        e.start mac codec ch c = (.ok frame, e.validated c ch', ch')) := by
  unfold start
  split
  · next hb => exact Or.inl (.mismatch hb)
  · next hb =>
    have hb := not_not.mp hb
    split
    · exact Or.inl (refused_fail hb (by simp))
    · next hrole =>
      split
      · exact Or.inl (refused_fail hb (by simp))
      · next hchannel =>
        split
        · exact Or.inl (refused_fail hb (by simp))
        · next hstate =>
          dsimp only
          split
          · exact Or.inl (.failed hb (by simp) ⟨rfl, rfl, rfl, rfl⟩)
          · next hv =>
            split
            · exact Or.inl (.failed hb (by simp) ⟨rfl, rfl, rfl, rfl⟩)
            · next hseal =>
              simp only [ne_eq, not_not] at hrole hchannel hstate
              exact Or.inr ⟨hb, hrole, by rw [hchannel, hrole], hstate, hv, _, _, hseal, rfl⟩

theorem receiveMessage_error {message : SidecarRuntimeMessage} {error : SidecarConfigurationError}
    (h : e.receiveMessage codec ch message = .error error) : error ≠ .channelInstanceMismatch := by
  rintro rfl
  unfold receiveMessage at h
  split at h
  · simp [Except.bind_eq_error, Except.mapError_eq_error, pure, Except.pure] at h
  · simp [Except.bind_eq_error, Except.ensure_eq_error, pure, Except.pure] at h
  · cases h

theorem receiveMessage_eq_ok {message : SidecarRuntimeMessage}
    {received : Option SidecarRuntimeConfiguration}
    (h : e.receiveMessage codec ch message = .ok (received, e')) :
    (e.role = .runtime ∧ e.state = .awaitingConfiguration ∧ ∃ c, message = .configure c ∧
      e.validate codec c ch = .ok () ∧ received = some c ∧ e' = e.validated c ch) ∨
    (e.role = .supervisor ∧ e.state = .awaitingAcknowledgement ∧ ∃ manifest,
      message = .configured manifest ∧ e.expectedManifest = some manifest ∧ received = none ∧
      e' = { e with state := .configured }) := by
  unfold receiveMessage at h
  split at h
  · next c hrole hstate =>
    simp only [Except.bind_eq_ok, Except.mapError_eq_ok] at h
    obtain ⟨_, hv, hd⟩ := h
    cases hd
    exact Or.inl ⟨hrole, hstate, c, rfl, hv, rfl, rfl⟩
  · next manifest hrole hstate =>
    simp only [Except.bind_eq_ok, Except.ensure_eq_ok] at h
    obtain ⟨-, hm, hd⟩ := h
    cases hd
    exact Or.inr ⟨hrole, hstate, manifest, rfl, hm, rfl, rfl⟩
  · cases h

theorem receive_cases (mac : Mac) (codec : Codec SidecarRuntimeMessage)
    (e : SidecarConfigurationExchange) (ch : AuthenticatedSidecarChannel) (frame : Bytes) :
    Refused e ch (e.receive mac codec ch frame) ∨
    (ch.instanceId = e.channelInstanceId ∧ ch.role = e.role ∧ ch.retired = false ∧
      ∃ payload message received e',
        ch.lockFrameLimit.authenticatedPayload mac frame =
          .ok (ch.receiveSequence + 1, payload) ∧
        codec.deserialize payload = some message ∧
        e.receiveMessage codec
          { ch.lockFrameLimit with receiveSequence := ch.receiveSequence + 1 } message =
          .ok (received, e') ∧
        e.receive mac codec ch frame = (.ok received, e',
          { ch.lockFrameLimit with receiveSequence := ch.receiveSequence + 1 })) := by
  unfold receive
  split
  · next hb => exact Or.inl (.mismatch hb)
  · next hb =>
    have hb := not_not.mp hb
    split
    · exact Or.inl (refused_fail hb (by simp))
    · next hrole =>
      rcases AuthenticatedSidecarChannel.open_cases mac codec.deserialize ch.lockFrameLimit frame
        with ⟨_, ho⟩ | ⟨hlive, payload, message, hp, hd, ho⟩ | ⟨_, error, ho⟩ <;>
        rw [ho] <;> dsimp only
      · exact Or.inl (.failed hb (by simp) ⟨rfl, rfl, rfl, rfl⟩)
      · split
        · next he => exact Or.inl (.failed hb (receiveMessage_error he) ⟨rfl, rfl, rfl, rfl⟩)
        · next hok => exact Or.inr ⟨hb, not_not.mp hrole, hlive, _, _, _, _, hp, hd, hok, rfl⟩
      · exact Or.inl (.failed hb (by simp) ⟨rfl, rfl, rfl, rfl⟩)

theorem acknowledge_cases (mac : Mac) (codec : Codec SidecarRuntimeMessage)
    (e : SidecarConfigurationExchange) (ch : AuthenticatedSidecarChannel)
    (manifest : SidecarRuntimeManifest) :
    Refused e ch (e.acknowledge mac codec ch manifest) ∨
    (ch.instanceId = e.channelInstanceId ∧ e.role = .runtime ∧ ch.role = .runtime ∧
      e.state = .awaitingAcknowledgement ∧ e.expectedManifest = some manifest ∧ ∃ frame ch',
        ch.seal mac (codec.serialize (.configured manifest)) = .ok (frame, ch') ∧
        e.acknowledge mac codec ch manifest =
          (.ok frame, { e with state := .acknowledgementPending }, ch')) := by
  unfold acknowledge
  split
  · next hb => exact Or.inl (.mismatch hb)
  · next hb =>
    have hb := not_not.mp hb
    split
    · exact Or.inl (refused_fail hb (by simp))
    · next hrole =>
      split
      · exact Or.inl (refused_fail hb (by simp))
      · next hchannel =>
        split
        · exact Or.inl (refused_fail hb (by simp))
        · next hstate =>
          split
          · exact Or.inl (refused_fail hb (by simp))
          · next hm =>
            split
            · exact Or.inl (refused_fail hb (by simp))
            · next hseal =>
              simp only [ne_eq, not_not] at hrole hchannel hstate hm
              exact Or.inr ⟨hb, hrole, by rw [hchannel, hrole], hstate, hm, _, _, hseal, rfl⟩

theorem completeAcknowledgement_cases (e : SidecarConfigurationExchange)
    (ch : AuthenticatedSidecarChannel) :
    Refused e ch (e.completeAcknowledgement ch) ∨
    (ch.instanceId = e.channelInstanceId ∧ e.role = .runtime ∧ ch.retired = false ∧
      e.state = .acknowledgementPending ∧
      e.completeAcknowledgement ch = (.ok (), { e with state := .configured }, ch)) := by
  unfold completeAcknowledgement
  split
  · next hb => exact Or.inl (.mismatch hb)
  · next hb =>
    have hb := not_not.mp hb
    split
    · exact Or.inl (refused_fail hb (by simp))
    · next hrole =>
      split
      · exact Or.inl (refused_fail hb (by simp))
      · next hlive =>
        split
        · exact Or.inl (refused_fail hb (by simp))
        · next hstate =>
          simp only [ne_eq, not_not] at hrole hstate
          exact Or.inr ⟨hb, hrole, by simpa using hlive, hstate, rfl⟩

/-- Calls that find everything in order, the converse of the cases above. -/
theorem new_eq {h : SidecarHandshake} {n : NegotiatedSidecarProtocol} {channelInstanceId : UInt64}
    (hstate : h.state = .authenticated) (hneg : h.negotiated = some n)
    (hid : h.channelInstanceId = some channelInstanceId) :
    ∃ e, new h = .ok e ∧ e.role = h.localRole ∧ e.channelInstanceId = channelInstanceId ∧
      e.selection = n.selection ∧
      (h.localRole = .supervisor → e.state = .starting ∧ e.runtimeVersion = n.remotePeer.version) ∧
      (h.localRole = .runtime →
        e.state = .awaitingConfiguration ∧ e.runtimeVersion = h.localOffer.peer.version) := by
  simp only [new, hstate, hneg, hid, Except.ensure, Option.elim_some, bind, Except.bind, pure,
    Except.pure, if_true]
  refine ⟨_, rfl, rfl, rfl, rfl, ?_, ?_⟩
  · intro hr
    simp [hr]
  · intro hr
    simp [hr]

theorem start_eq {frame : Bytes} (hb : ch.instanceId = e.channelInstanceId)
    (hrole : e.role = .supervisor) (hch : ch.role = .supervisor) (hstate : e.state = .starting)
    (hv : e.validate codec c ch.lockFrameLimit = .ok ())
    (hs : ch.lockFrameLimit.seal mac (codec.serialize (.configure c)) = .ok (frame, ch')) :
    e.start mac codec ch c = (.ok frame, e.validated c ch', ch') := by
  simp [start, hb, hrole, hch, hstate, hv, hs]

theorem receive_eq {frame : Bytes} {message : SidecarRuntimeMessage}
    {received : Option SidecarRuntimeConfiguration} (hb : ch.instanceId = e.channelInstanceId)
    (hch : ch.role = e.role)
    (ho : ch.lockFrameLimit.open mac codec.deserialize frame = (.ok message, ch'))
    (hr : e.receiveMessage codec ch' message = .ok (received, e')) :
    e.receive mac codec ch frame = (.ok received, e', ch') := by
  simp [receive, hb, hch, ho, hr]

theorem receiveMessage_configure_eq (hrole : e.role = .runtime)
    (hstate : e.state = .awaitingConfiguration) (hv : e.validate codec c ch = .ok ()) :
    e.receiveMessage codec ch (.configure c) = .ok (some c, e.validated c ch) := by
  simp [receiveMessage, hrole, hstate, hv, Except.mapError, bind, Except.bind, pure, Except.pure]

theorem receiveMessage_configured_eq {manifest : SidecarRuntimeManifest}
    (hrole : e.role = .supervisor) (hstate : e.state = .awaitingAcknowledgement)
    (hm : e.expectedManifest = some manifest) :
    e.receiveMessage codec ch (.configured manifest) =
      .ok (none, { e with state := .configured }) := by
  simp [receiveMessage, hrole, hstate, hm, Except.ensure, bind, Except.bind, pure, Except.pure]

theorem acknowledge_eq {manifest : SidecarRuntimeManifest} {frame : Bytes}
    (hb : ch.instanceId = e.channelInstanceId) (hrole : e.role = .runtime)
    (hch : ch.role = .runtime) (hstate : e.state = .awaitingAcknowledgement)
    (hm : e.expectedManifest = some manifest)
    (hs : ch.seal mac (codec.serialize (.configured manifest)) = .ok (frame, ch')) :
    e.acknowledge mac codec ch manifest =
      (.ok frame, { e with state := .acknowledgementPending }, ch') := by
  simp [acknowledge, hb, hrole, hch, hstate, hm, hs]

theorem completeAcknowledgement_eq (hb : ch.instanceId = e.channelInstanceId)
    (hrole : e.role = .runtime) (hlive : ch.retired = false)
    (hstate : e.state = .acknowledgementPending) :
    e.completeAcknowledgement ch = (.ok (), { e with state := .configured }, ch) := by
  simp [completeAcknowledgement, hb, hrole, hlive, hstate]

end SidecarConfigurationExchange

namespace SidecarRuntimeBridge

variable {e : SidecarConfigurationExchange} {ch : AuthenticatedSidecarChannel}
  {bridge : SidecarRuntimeBridge}

/-- A bridge comes from the kept configuration, whose manifest the exchange expects. -/
theorem activateConfigured_eq_ok (h : activateConfigured e ch = .ok bridge) :
    ∃ c maxPayloadBytes, e.configuration = some c ∧ e.state = .configured ∧
      e.expectedManifest = some (manifestFromConfiguration c) ∧
      e.maxPayloadBytes = some maxPayloadBytes ∧
      buildCommandRuntime c (manifestFromConfiguration c) ⟨maxPayloadBytes, ch.instanceId⟩ =
        .ok bridge.runtime ∧
      bridge.manifest = manifestFromConfiguration c ∧
      bridge.status = {
        state := .configured
        manifestGeneration := c.manifestGeneration
        runtimeVersion := e.runtimeVersion
        attempt := 0
        reason := none } := by
  simp only [activateConfigured, Except.bind_eq_ok, Except.ensure_eq_ok, Except.mapError_eq_ok,
    Except.elim_eq_ok, not_or, not_not, ne_eq] at h
  obtain ⟨c, hc, -, ⟨hstate, hm⟩, maxPayloadBytes, hp, runtime, hb, hd⟩ := h
  cases hd
  exact ⟨c, maxPayloadBytes, hc, hstate, hm, hp, hb, rfl, rfl⟩

theorem activate_cases (e : SidecarConfigurationExchange) (ch : AuthenticatedSidecarChannel) :
    (ch.instanceId ≠ e.channelInstanceId ∧
      activate e ch = (.error .channelInstanceMismatch, e, ch.retire)) ∨
    (ch.instanceId = e.channelInstanceId ∧ ch.retired = true ∧
      activate e ch = (.error .channelRetired, e.failed, ch)) ∨
    (ch.instanceId = e.channelInstanceId ∧ ch.retired = false ∧
      ∃ error, activate e ch = (.error error, e, ch)) ∨
    (ch.instanceId = e.channelInstanceId ∧ ch.retired = false ∧ e.role = .runtime ∧
      ∃ bridge, activateConfigured e ch = .ok bridge ∧
        activate e ch = (.ok bridge, { e with state := .activated }, ch)) := by
  unfold activate
  split
  · next hb => exact Or.inl ⟨hb, rfl⟩
  · next hb =>
    have hb := not_not.mp hb
    right
    split
    · next hr => exact Or.inl ⟨hb, hr, rfl⟩
    · next hr =>
      right
      have hlive : ch.retired = false := by simpa using hr
      split
      · exact Or.inl ⟨hb, hlive, _, rfl⟩
      · next hrole =>
        split
        · exact Or.inl ⟨hb, hlive, _, rfl⟩
        · next hok => exact Or.inr ⟨hb, hlive, not_not.mp hrole, _, hok, rfl⟩

theorem activate_eq {c : SidecarRuntimeConfiguration} {maxPayloadBytes : Nat}
    {runtime : SidecarCommandRuntime} (hb : ch.instanceId = e.channelInstanceId)
    (hlive : ch.retired = false) (hrole : e.role = .runtime) (hstate : e.state = .configured)
    (hc : e.configuration = some c)
    (hm : e.expectedManifest = some (manifestFromConfiguration c))
    (hp : e.maxPayloadBytes = some maxPayloadBytes)
    (hr : buildCommandRuntime c (manifestFromConfiguration c) ⟨maxPayloadBytes, ch.instanceId⟩ =
      .ok runtime) :
    ∃ bridge : SidecarRuntimeBridge, bridge.runtime = runtime ∧
      activate e ch = (.ok bridge, { e with state := .activated }, ch) := by
  refine ⟨⟨runtime, manifestFromConfiguration c,
    ⟨.configured, c.manifestGeneration, e.runtimeVersion, 0, none⟩⟩, rfl, ?_⟩
  have hok : activateConfigured e ch = .ok ⟨runtime, manifestFromConfiguration c,
      ⟨.configured, c.manifestGeneration, e.runtimeVersion, 0, none⟩⟩ := by
    simp only [activateConfigured, hc, hstate, hm, hp, Option.elim_some, bind, Except.bind,
      Except.ensure, ne_eq, not_true_eq_false, or_self, not_false_eq_true, if_true, hr,
      Except.mapError, pure, Except.pure]
    rfl
  simp [activate, hb, hlive, hrole, hok]

end SidecarRuntimeBridge
end OpenclawNode.Sidecar
