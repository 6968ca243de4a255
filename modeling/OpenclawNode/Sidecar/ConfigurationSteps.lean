import OpenclawNode.Sidecar.HandshakeSteps

/-! Every exchange call keeps the invariant of a two-party run. -/
namespace OpenclawNode.Sidecar

open BigEndian (Bytes)
open BoundedWriter (Codec)
open Transition (System)

variable {mac : Mac} {hc : Codec SidecarHandshakeMessage} {rc : Codec SidecarRuntimeMessage}
  {s : SidecarSession} {w w' : SidecarRun} {role : SidecarPeerRole}
  {ch ch' : AuthenticatedSidecarChannel} {h : SidecarHandshake}
  {e e' : SidecarConfigurationExchange}

theorem SidecarRun.Ok.exchange (hok : w.Ok mac hc rc s)
    (hp : w.party role = ⟨ch, .exchange h e⟩) :
    e.state = .failed ∨ ExchangeOk s w.log role ch h e := by
  have hparty := hok.party role
  rw [hp] at hparty
  exact hparty

/-- A refused call leaves the exchange failed and yields nothing. -/
theorem exchange_refused {α : Type} {result : Except SidecarConfigurationError α}
    (hok : e.state = .failed ∨ ExchangeOk s w.log role ch h e)
    (hr : SidecarConfigurationExchange.Refused e ch (result, e', ch')) :
    e'.state = .failed ∧ ∃ error, result = .error error := by
  cases hr with
  | mismatch hb =>
    rcases hok with hf | hok
    · exact ⟨hf, _, rfl⟩
    · exact absurd hok.bound hb
  | failed _ _ _ => exact ⟨rfl, _, rfl⟩

theorem SidecarRun.Ok.exchange_failed (hok : w.Ok mac hc rc s)
    (hp : w.party role = ⟨ch, .exchange h e⟩) (hf : e'.state = .failed) :
    (w.set role ⟨ch', .exchange h e'⟩).Ok mac hc rc s := by
  refine hok.replace_silent (Or.inl hf) ?_ ?_
  · intro _
    simp [SidecarPhase.Configuring, hf]
  · rw [hp]
    exact id

/-- The next state of an exchange that goes on, with the frames and events of the step. -/
theorem SidecarRun.Ok.exchange_advances (hok : w.Ok mac hc rc s) (frames : List Bytes)
    (events : List SidecarEvent)
    (hnew : ExchangeOk s (w.log ++ events) role ch' h e')
    (hframes : ∀ frame ∈ frames, SentFrame mac hc rc s (w.log ++ events) frame)
    (hlog : CausalLog s (w.log ++ events)) (hstarted : e'.state ≠ .starting)
    (hconf : ∀ c, .configured c ∈ events → role = .supervisor)
    (hact : ∀ b, .activated b ∈ events → role = .runtime) :
    ((w.set role ⟨ch', .exchange h e'⟩).record frames events).Ok mac hc rc s := by
  obtain ⟨n, hholds, -⟩ := hnew.holds
  refine hok.replace _ _ (Or.inr hnew) hframes hlog ?_ ?_ ?_ ?_
  · exact fun _ => hstarted
  · exact fun c hc => ⟨hconf c hc, hstarted⟩
  · exact fun _ => hholds.state
  · exact fun b hb => ⟨hact b hb, hholds.state⟩

theorem SidecarRun.Ok.newExchange (hok : w.Ok mac hc rc s)
    (hp : w.party role = ⟨ch, .handshake h⟩)
    (hn : SidecarConfigurationExchange.new h = .ok e) :
    (w.set role ⟨ch, .exchange h e⟩).Ok mac hc rc s := by
  obtain ⟨n, instanceId, hstate, hneg, hid, rfl⟩ := SidecarConfigurationExchange.new_eq_ok hn
  refine hok.replace_silent (Or.inr ?_) ?_ ?_
  · rcases hok.handshake hp with hf | ⟨howns, hoffer, hbinds, hprogress⟩
    · simp [hstate] at hf
    obtain ⟨n', hholds, hcounts, -⟩ := hprogress.authenticated hstate
    have hn : n = n' := Option.some.inj (hneg.symm.trans hholds.negotiated)
    have hrole : h.localRole = role := by
      rw [SidecarHandshake.localRole, hoffer, s.offer_role]
    have hbound : ch.instanceId = instanceId := by
      rcases hbinds with hb | hb
      · simp [hid] at hb
      · exact (Option.some.inj (hid.symm.trans hb)).symm
    refine ⟨howns, hrole, hbound, ⟨n', hholds, by rw [← hn]⟩, ?_⟩
    subst hrole
    cases hr : h.localRole with
    | supervisor => exact .starting (by simp) hcounts
    | runtime => exact .awaitingConfiguration (by simp) hcounts
  · rw [hp]
    exact fun hc => hc.elim
  · rw [hp]
    exact fun ha => ha.elim

theorem SidecarRun.Ok.newExchange_failed (hok : w.Ok mac hc rc s)
    (hp : w.party role = ⟨ch, .handshake h⟩) : (w.set role ⟨ch, .refused⟩).Ok mac hc rc s := by
  refine hok.replace_silent trivial ?_ ?_
  · rw [hp]
    exact fun hc => hc.elim
  · rw [hp]
    exact fun ha => ha.elim

theorem SidecarSession.Holds.of_channel {n : NegotiatedSidecarProtocol}
    (hh : s.Holds role ch h n) (hminor : ch'.protocolMinor = ch.protocolMinor)
    (hmax : ch'.maxFrameBytes = ch.maxFrameBytes) : s.Holds role ch' h n :=
  ⟨hh.state, hh.negotiated, hh.negotiates, hminor.trans hh.protocolMinor,
    hmax.trans hh.maxFrameBytes⟩

theorem SidecarSession.Owns.lock (howns : s.Owns role ch) : s.Owns role ch.lockFrameLimit :=
  ⟨howns.role, howns.sessionId, howns.generation, howns.key⟩

theorem SidecarRun.Ok.startConfiguration (hok : w.Ok mac hc rc s)
    (hp : w.party role = ⟨ch, .exchange h e⟩) {c : SidecarRuntimeConfiguration}
    {result : Except SidecarConfigurationError Bytes}
    (hr : e.start mac rc ch c = (result, e', ch')) :
    ((w.set role ⟨ch', .exchange h e'⟩).record (sealedFrame result)
      (startEvents c result)).Ok mac hc rc s := by
  have hparty := hok.exchange hp
  rcases e.start_cases mac rc ch c with hf | ⟨_, hrole, _, hstate, _, frame, ch₁, hseal, hres⟩
  · rw [hr] at hf
    obtain ⟨hfail, error, rfl⟩ := exchange_refused hparty hf
    simpa [sealedFrame, startEvents] using hok.exchange_failed hp hfail
  · rw [hr] at hres
    cases hres
    rcases hparty with hf | ⟨howns, hrole', hbound, ⟨n, hholds, hsel⟩, hprogress⟩
    · simp [hstate] at hf
    have hsup : role = .supervisor := hrole'.symm.trans hrole
    subst hsup
    cases hprogress with
    | starting _ hn =>
      have hfresh : ∀ c', .configured c' ∉ w.log := by
        intro c' hc'
        have hconf := hok.configuring c' hc'
        rw [hp] at hconf
        exact hconf hstate
      obtain ⟨howns', hn', hid, hminor, hmax, hframe⟩ := howns.lock.seal hc rc
        (w.log ++ [.configured c]) hseal hn
      refine hok.exchange_advances _ _ ?_ ?_ (hok.log.snoc (.configured hfresh)) ?_ ?_ ?_
      · exact ⟨howns', hrole', hid.trans hbound, ⟨n, hholds.of_channel hminor hmax, hsel⟩,
          .sent rfl hn' ⟨rfl, rfl⟩ (by simp [startEvents])⟩
      · intro f hf
        simp only [sealedFrame, List.mem_singleton] at hf
        subst hf
        exact hframe (.configure (by simp))
      · simp [SidecarConfigurationExchange.validated]
      · simp
      · simp [startEvents]
    | sent hs _ _ _ => simp [hstate] at hs
    | confirmed hs _ _ _ _ => simp [hstate] at hs

theorem SidecarRun.Ok.receiveConfiguration (hx : ∀ c, rc.Exact (.configure c))
    (hx' : ∀ manifest, rc.Exact (.configured manifest)) (hok : w.Ok mac hc rc s)
    (hp : w.party role = ⟨ch, .exchange h e⟩) {frame : Bytes} (hideal : w.IdealMac mac s frame)
    {result : Except SidecarConfigurationError (Option SidecarRuntimeConfiguration)}
    (hr : e.receive mac rc ch frame = (result, e', ch')) :
    ((w.set role ⟨ch', .exchange h e'⟩).record [] (receiveEvents result)).Ok mac hc rc s := by
  have hparty := hok.exchange hp
  rcases e.receive_cases mac rc ch frame with
    hf | ⟨_, _, hlive, payload, message, received, e₁, hauth, hdec, hmsg, hres⟩
  · rw [hr] at hf
    obtain ⟨hfail, error, rfl⟩ := exchange_refused hparty hf
    simpa [receiveEvents] using hok.exchange_failed hp hfail
  · rw [hr] at hres
    cases hres
    have hroom := (AuthenticatedSidecarChannel.authenticatedPayload_eq_ok hauth).2.1
    rcases SidecarConfigurationExchange.receiveMessage_eq_ok hmsg with
      ⟨hrole, hstate, c, rfl, hvalid, rfl, rfl⟩ | ⟨hrole, hstate, manifest, rfl, hexp, rfl, rfl⟩
    · rcases hparty with hf | ⟨howns, hrole', hbound, ⟨n, hholds, hsel⟩, hprogress⟩
      · simp [hstate] at hf
      have hrt : role = .runtime := hrole'.symm.trans hrole
      subst hrt
      cases hprogress with
      | awaitingConfiguration _ hn =>
        obtain ⟨sent, hsent, hnf, rfl⟩ := hok.opened howns.lock hlive hideal hauth
        obtain ⟨howns', hn'⟩ := howns.lock.received hroom hn
        have hcount : ch.lockFrameLimit.receiveSequence.toNat = 1 := hn.2
        rw [hcount] at hsent
        cases hsent with
        | configure hcfg =>
          have hsame := hx _ hnf
          rw [hdec] at hsame
          cases hsame
          have hv : validateConfiguration c e.selection = .ok () := by
            simp only [SidecarConfigurationExchange.validate, Except.bind_eq_ok] at hvalid
            exact hvalid.choose_spec.1
          refine hok.exchange_advances [] _ ?_ (by simp)
            (hok.log.snoc (.accepted hcfg)) ?_ ?_ ?_
          · exact ⟨howns', hrole', hbound, ⟨n, hholds.of_channel rfl rfl, hsel⟩,
              .received rfl hn' ⟨rfl, rfl⟩ hv (by simp [receiveEvents])⟩
          · simp [SidecarConfigurationExchange.validated]
          · simp [receiveEvents]
          · simp [receiveEvents]
      | received hs _ _ _ _ => simp [hstate] at hs
      | acknowledged hs _ _ _ _ _ => simp [hstate] at hs
      | committed hs _ _ _ _ _ _ => simp [hstate] at hs
    · rcases hparty with hf | ⟨howns, hrole', hbound, ⟨n, hholds, hsel⟩, hprogress⟩
      · simp [hstate] at hf
      have hsup : role = .supervisor := hrole'.symm.trans hrole
      subst hsup
      cases hprogress with
      | starting hs _ => simp [hstate] at hs
      | @sent _ _ c _ hn hkeep hcfg =>
        obtain ⟨sent, hsent, hnf, rfl⟩ := hok.opened howns.lock hlive hideal hauth
        obtain ⟨howns', hn'⟩ := howns.lock.received hroom hn
        have hcount : ch.lockFrameLimit.receiveSequence.toNat = 1 := hn.2
        rw [hcount] at hsent
        cases hsent with
        | configured hack =>
          have hsame := hx' _ hnf
          rw [hdec] at hsame
          cases hsame
          have hmanifest : manifest = manifestFromConfiguration c :=
            Option.some.inj (hexp.symm.trans hkeep.2)
          subst hmanifest
          refine hok.exchange_advances [] [] ?_ (by simp)
            (by simpa using hok.log) (by simp) (by simp) (by simp)
          exact ⟨howns', hrole', hbound, ⟨n, hholds.of_channel rfl rfl, hsel⟩,
            .confirmed rfl hn' hkeep (by simpa using hcfg) (by simpa using hack)⟩
      | confirmed hs _ _ _ _ => simp [hstate] at hs

theorem SidecarRun.Ok.acknowledge (hok : w.Ok mac hc rc s)
    (hp : w.party role = ⟨ch, .exchange h e⟩) {manifest : SidecarRuntimeManifest}
    {result : Except SidecarConfigurationError Bytes}
    (hr : e.acknowledge mac rc ch manifest = (result, e', ch')) :
    ((w.set role ⟨ch', .exchange h e'⟩).record (sealedFrame result)
      (acknowledgeEvents manifest result)).Ok mac hc rc s := by
  have hparty := hok.exchange hp
  rcases e.acknowledge_cases mac rc ch manifest with
    hf | ⟨_, hrole, _, hstate, hexp, frame, ch₁, hseal, hres⟩
  · rw [hr] at hf
    obtain ⟨hfail, error, rfl⟩ := exchange_refused hparty hf
    simpa [sealedFrame, acknowledgeEvents] using hok.exchange_failed hp hfail
  · rw [hr] at hres
    cases hres
    rcases hparty with hf | ⟨howns, hrole', hbound, ⟨n, hholds, hsel⟩, hprogress⟩
    · simp [hstate] at hf
    have hrt : role = .runtime := hrole'.symm.trans hrole
    subst hrt
    cases hprogress with
    | awaitingConfiguration hs _ => simp [hstate] at hs
    | @received _ _ c _ hn hkeep hvalid hacc =>
      have hmanifest : manifest = manifestFromConfiguration c :=
        Option.some.inj (hexp.symm.trans hkeep.2)
      subst hmanifest
      obtain ⟨howns', hn', hid, hminor, hmax, hframe⟩ := howns.seal hc rc
        (w.log ++ [.acknowledged (manifestFromConfiguration c)]) hseal hn
      refine hok.exchange_advances _ _ ?_ ?_ (hok.log.snoc (.acknowledged hacc)) ?_ ?_ ?_
      · exact ⟨howns', hrole', hid.trans hbound, ⟨n, hholds.of_channel hminor hmax, hsel⟩,
          .acknowledged rfl hn' hkeep hvalid (by simp [hacc]) (by simp [acknowledgeEvents])⟩
      · intro f hf
        simp only [sealedFrame, List.mem_singleton] at hf
        subst hf
        exact hframe (.configured (by simp))
      · simp
      · simp [acknowledgeEvents]
      · simp [acknowledgeEvents]
    | acknowledged hs _ _ _ _ _ => simp [hstate] at hs
    | committed hs _ _ _ _ _ _ => simp [hstate] at hs

theorem SidecarRun.Ok.completeAcknowledgement (hok : w.Ok mac hc rc s)
    (hp : w.party role = ⟨ch, .exchange h e⟩) {result : Except SidecarConfigurationError Unit}
    (hr : e.completeAcknowledgement ch = (result, e', ch')) :
    ((w.set role ⟨ch', .exchange h e'⟩).record [] (completeEvents result)).Ok mac hc rc s := by
  have hparty := hok.exchange hp
  rcases e.completeAcknowledgement_cases ch with hf | ⟨_, hrole, _, hstate, hres⟩
  · rw [hr] at hf
    obtain ⟨hfail, error, rfl⟩ := exchange_refused hparty hf
    simpa [completeEvents] using hok.exchange_failed hp hfail
  · rw [hr] at hres
    cases hres
    rcases hparty with hf | ⟨howns, hrole', hbound, hholds, hprogress⟩
    · simp [hstate] at hf
    have hrt : role = .runtime := hrole'.symm.trans hrole
    subst hrt
    cases hprogress with
    | awaitingConfiguration hs _ => simp [hstate] at hs
    | received hs _ _ _ _ => simp [hstate] at hs
    | acknowledged _ hn hkeep hvalid hacc hack =>
      refine hok.exchange_advances [] _ ?_ (by simp)
        (hok.log.snoc (.committed hacc hack)) ?_ ?_ ?_
      · exact ⟨howns, hrole', hbound, hholds, .committed (Or.inl rfl) hn hkeep hvalid
          (by simp [hacc]) (by simp [hack]) (by simp [completeEvents])⟩
      · simp
      · simp [completeEvents]
      · simp [completeEvents]
    | committed hs _ _ _ _ _ _ => simp [hstate] at hs

theorem SidecarRun.Ok.activate (hok : w.Ok mac hc rc s)
    (hp : w.party role = ⟨ch, .exchange h e⟩)
    {result : Except SidecarRuntimeBridgeError SidecarRuntimeBridge}
    (hr : SidecarRuntimeBridge.activate e ch = (result, e', ch')) :
    ((w.set role ⟨ch', .exchange h e'⟩).record [] (activateEvents result)).Ok mac hc rc s := by
  have hparty := hok.exchange hp
  have hsame : ∀ ch', (ch' = ch ∨ ch' = ch.retire) →
      (w.set role ⟨ch', .exchange h e⟩).Ok mac hc rc s := by
    intro ch' hch
    have hphase : SidecarPhase.Ok s w.log role ch (.exchange h e) := hparty
    have hphase' : SidecarPhase.Ok s w.log role ch' (.exchange h e) := by
      rcases hch with rfl | rfl
      · exact hphase
      · exact hphase.retire
    refine hok.replace_silent hphase' ?_ ?_
    · rw [hp]
      exact id
    · rw [hp]
      exact id
  rcases SidecarRuntimeBridge.activate_cases e ch with
    ⟨_, hres⟩ | ⟨_, _, hres⟩ | ⟨_, _, error, hres⟩ | ⟨_, _, hrole, bridge, hb, hres⟩
  · rw [hr] at hres
    cases hres
    simpa [activateEvents] using hsame _ (Or.inr rfl)
  · rw [hr] at hres
    cases hres
    simpa [activateEvents] using
      hok.exchange_failed hp (show e.failed.state = .failed from rfl)
  · rw [hr] at hres
    cases hres
    simpa [activateEvents] using hsame _ (Or.inl rfl)
  · rw [hr] at hres
    cases hres
    obtain ⟨c, maxPayloadBytes, hcfg, hstate, hexp, _, hbuild, hmanifest, hstatus⟩ :=
      SidecarRuntimeBridge.activateConfigured_eq_ok hb
    rcases hparty with hf | ⟨howns, hrole', hbound, hholds, hprogress⟩
    · simp [hstate] at hf
    have hrt : role = .runtime := hrole'.symm.trans hrole
    subst hrt
    cases hprogress with
    | awaitingConfiguration hs _ => simp [hstate] at hs
    | received hs _ _ _ _ => simp [hstate] at hs
    | acknowledged hs _ _ _ _ _ => simp [hstate] at hs
    | @committed _ _ c' _ hn hkeep hvalid hacc hack hcom =>
      have hsame : c = c' := Option.some.inj (hcfg.symm.trans hkeep.1)
      subst hsame
      have hserves : bridge.Serves c :=
        ⟨⟨_, hvalid⟩, hmanifest, ⟨_, hbuild⟩, by rw [hstatus]⟩
      refine hok.exchange_advances [] _ ?_ (by simp)
        (hok.log.snoc (.activated hacc hack hcom hserves)) ?_ ?_ ?_
      · exact ⟨howns, hrole', hbound, hholds, .committed (Or.inr rfl) hn hkeep hvalid
          (by simp [hacc]) (by simp [hack]) (by simp [hcom])⟩
      · simp
      · simp [activateEvents]
      · simp [activateEvents]

theorem ok_configuration_step (hx : ∀ message, hc.Exact message)
    (hx' : ∀ c, rc.Exact (.configure c)) (hx'' : ∀ manifest, rc.Exact (.configured manifest))
    {a : ConfigurationAction} (hs : ConfigurationStep mac hc rc s w a w')
    (hok : w.Ok mac hc rc s) : w'.Ok mac hc rc s := by
  cases hs with
  | handshake hs => exact ok_handshake_step hx hs hok
  | newExchange hp hn => exact hok.newExchange hp hn
  | newExchangeFailed hp _ => exact hok.newExchange_failed hp
  | start hp hr => exact hok.startConfiguration hp hr
  | receive hp hideal hr => exact hok.receiveConfiguration hx' hx'' hp hideal hr
  | acknowledge hp hr => exact hok.acknowledge hp hr
  | completeAcknowledgement hp hr => exact hok.completeAcknowledgement hp hr
  | activate hp hr => exact hok.activate hp hr

theorem ok_configuration_reachable (hx : ∀ message, hc.Exact message)
    (hx' : ∀ c, rc.Exact (.configure c)) (hx'' : ∀ manifest, rc.Exact (.configured manifest))
    (hw : (configurationSystem mac hc rc s).Reachable w) : w.Ok mac hc rc s :=
  hw.invariant (fun _ hi => ok_initial hi)
    (fun _ _ _ hs hok => ok_configuration_step hx hx' hx'' hs hok)

end OpenclawNode.Sidecar
