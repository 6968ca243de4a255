import OpenclawNode.Sidecar.BuiltRuntime
import OpenclawNode.Sidecar.ConfigurationSteps
import OpenclawNode.Sidecar.HonestHandshake

/-! When the transport delivers, a valid configuration that fits ends in an active bridge. -/
namespace OpenclawNode.Sidecar

open BoundedWriter (Codec)
open Transition (System)

variable {hc : Codec SidecarHandshakeMessage} {rc : Codec SidecarRuntimeMessage}
  {s : SidecarSession} {w : SidecarRun} {cs cr : AuthenticatedSidecarChannel}
  {hs hr : SidecarHandshake} {n m : NegotiatedSidecarProtocol}

/-- A configuration that both peers accept under their selection and that their channels carry. -/
structure HonestConfiguration (rc : Codec SidecarRuntimeMessage) (s : SidecarSession)
    (n : NegotiatedSidecarProtocol) (c : SidecarRuntimeConfiguration)
    (cs cr : AuthenticatedSidecarChannel) : Prop where
  valid : validateConfiguration c n.selection = .ok ()
  status_fits : validateStatusBudget rc (s.offer .runtime).peer.version c.manifestGeneration
    cs.maxPayloadBytes = .ok ()
  configure_fits : cs.Carries (rc.serialize (.configure c))
  configured_fits : cr.Carries (rc.serialize (.configured (manifestFromConfiguration c)))

/-- Two authenticated peers on live channels deliver to each other. -/
theorem SidecarSession.Holds.delivers (howns : s.Owns .supervisor cs) (howns' : s.Owns .runtime cr)
    (hh : s.Holds .supervisor cs hs n) (hh' : s.Holds .runtime cr hr m)
    (hlive : cs.retired = false) (hlive' : cr.retired = false) :
    Delivers cs cr ∧ Delivers cr cs := by
  have hsel := selection_symm hh.negotiates hh'.negotiates
  have hminor : cr.protocolMinor = cs.protocolMinor := by
    rw [hh.protocolMinor, hh'.protocolMinor]
    exact (congrArg SidecarProtocolSelection.protocolMinor hsel).symm
  have hmax : cr.maxFrameBytes = cs.maxFrameBytes := by
    rw [hh.maxFrameBytes, hh'.maxFrameBytes]
    exact congrArg SidecarLimits.maxFrameBytes
      (congrArg SidecarProtocolSelection.limits hsel).symm
  have hkey : cr.key = cs.key := by rw [howns.key hlive, howns'.key hlive']
  have hsession : cr.sessionId = cs.sessionId := by rw [howns.sessionId, howns'.sessionId]
  have hgen : cr.generation = cs.generation := by rw [howns.generation, howns'.generation]
  refine ⟨⟨hlive, hlive', ?_, hkey, hsession, hgen, hminor, hmax⟩,
    ⟨hlive', hlive, ?_, hkey.symm, hsession.symm, hgen.symm, hminor.symm, hmax.symm⟩⟩
  · rw [howns.role, howns'.role]
    rfl
  · rw [howns.role, howns'.role]
    rfl

theorem Delivers.lock (h : Delivers cs cr) : Delivers cs.lockFrameLimit cr.lockFrameLimit :=
  ⟨h.live, h.live', h.role, h.key, h.sessionId, h.generation, h.protocolMinor, h.maxFrameBytes⟩

/-- An exchange that has just been bound to a channel, under a selection. -/
structure SidecarConfigurationExchange.NewOn (e : SidecarConfigurationExchange)
    (role : SidecarPeerRole) (ch : AuthenticatedSidecarChannel)
    (selection : SidecarProtocolSelection) (runtimeVersion : String) : Prop where
  role_eq : e.role = role
  channelRole : ch.role = role
  bound : ch.instanceId = e.channelInstanceId
  selection_eq : e.selection = selection
  version_eq : e.runtimeVersion = runtimeVersion
  starting : role = .supervisor → e.state = .starting
  awaiting : role = .runtime → e.state = .awaitingConfiguration
  counted : ch.counted 1 1 = ch

/-- The exchange of an authenticated peer whose channel has carried one frame each way. -/
theorem SidecarRun.Ok.new_exchange {mac : Mac} {role : SidecarPeerRole}
    {ch : AuthenticatedSidecarChannel} {h : SidecarHandshake} (hok : w.Ok mac hc rc s)
    (hp : w.party role = ⟨ch, .handshake h⟩) (ha : h.AuthenticatedOn ch) :
    ∃ n e, s.Owns role ch ∧ s.Holds role ch h n ∧ SidecarConfigurationExchange.new h = .ok e ∧
      e.NewOn role ch n.selection (s.offer .runtime).peer.version := by
  rcases hok.handshake hp with hf | ⟨howns, hoffer, -, hprogress⟩
  · simp [ha.state] at hf
  obtain ⟨n, hholds, ⟨hsent, hreceived⟩, -⟩ := hprogress.authenticated ha.state
  have hlocal : h.localRole = role := by rw [SidecarHandshake.localRole, hoffer, s.offer_role]
  obtain ⟨e, hnew, hrole, hbound, hselection, hsupervisor, hruntime⟩ :=
    SidecarConfigurationExchange.new_eq ha.state hholds.negotiated ha.bound
  refine ⟨n, e, howns, hholds, hnew, {
    role_eq := hrole.trans hlocal
    channelRole := howns.role
    bound := hbound.symm
    selection_eq := hselection
    version_eq := ?_
    starting := fun hr => (hsupervisor (hlocal.trans hr)).1
    awaiting := fun hr => (hruntime (hlocal.trans hr)).1
    counted := AuthenticatedSidecarChannel.counted_self (UInt64.toNat_inj.mp hsent)
      (UInt64.toNat_inj.mp hreceived) }⟩
  cases role with
  | supervisor =>
    rw [(hsupervisor hlocal).2, negotiate_selection hholds.negotiates]
    rfl
  | runtime => rw [(hruntime hlocal).2, hoffer]

/-- Two authenticated peers bind exchanges under one selection. -/
theorem SidecarRun.Ok.new_exchanges {mac : Mac} (hok : w.Ok mac hc rc s)
    (hps : w.party .supervisor = ⟨cs, .handshake hs⟩) (hpr : w.party .runtime = ⟨cr, .handshake hr⟩)
    (has : hs.AuthenticatedOn cs) (har : hr.AuthenticatedOn cr) :
    ∃ n es er, SidecarConfigurationExchange.new hs = .ok es ∧
      SidecarConfigurationExchange.new hr = .ok er ∧ s.Holds .supervisor cs hs n ∧
      Delivers cs cr ∧ Delivers cr cs ∧
      es.NewOn .supervisor cs n.selection (s.offer .runtime).peer.version ∧
      er.NewOn .runtime cr n.selection (s.offer .runtime).peer.version := by
  obtain ⟨n, es, howns, hholds, hnew, hes⟩ := hok.new_exchange hps has
  obtain ⟨m, er, howns', hholds', hnew', her⟩ := hok.new_exchange hpr har
  obtain ⟨hdeliver, hdeliver'⟩ := hholds.delivers howns howns' hholds' has.live har.live
  have hsel := selection_symm hholds.negotiates hholds'.negotiates
  exact ⟨n, es, er, hnew, hnew', hholds, hdeliver, hdeliver', hes, hsel ▸ her⟩

/-- Every run of the handshake alone is a run of the handshake and the exchange. -/
theorem reachable_of_handshake {mac : Mac} (rc : Codec SidecarRuntimeMessage)
    (hw : (handshakeSystem mac hc s).Reachable w) :
    (configurationSystem mac hc rc s).Reachable w := by
  refine hw.mono ?_ ?_
  · exact fun _ hi => hi
  · exact fun _ _ _ hs => ⟨_, .handshake hs⟩

theorem HonestConfiguration.validate {c : SidecarRuntimeConfiguration}
    (hconf : HonestConfiguration rc s n c cs cr) {e : SidecarConfigurationExchange}
    {ch : AuthenticatedSidecarChannel} (hsel : e.selection = n.selection)
    (hversion : e.runtimeVersion = (s.offer .runtime).peer.version)
    (hmax : ch.maxPayloadBytes = cs.maxPayloadBytes) : e.validate rc c ch = .ok () := by
  simp only [SidecarConfigurationExchange.validate, hsel, hversion, hmax, hconf.valid,
    hconf.status_fits, bind, Except.bind]

theorem Delivers.maxPayloadBytes (h : Delivers cs cr) : cr.maxPayloadBytes = cs.maxPayloadBytes := by
  rw [AuthenticatedSidecarChannel.maxPayloadBytes, h.maxFrameBytes, h.sessionId]
  rfl

/-- The calls of an honest exchange, each on what the calls before it left behind. -/
theorem HonestConfiguration.completes {c : SidecarRuntimeConfiguration} (mac : Mac)
    (hconf : HonestConfiguration rc s n c cs cr) (hx : rc.Exact (.configure c))
    (hx' : rc.Exact (.configured (manifestFromConfiguration c)))
    (hdeliver : Delivers cs cr) (hdeliver' : Delivers cr cs) {es er : SidecarConfigurationExchange}
    (hes : es.NewOn .supervisor cs n.selection (s.offer .runtime).peer.version)
    (her : er.NewOn .runtime cr n.selection (s.offer .runtime).peer.version) :
    ∃ configure configured b,
      es.start mac rc cs c = (.ok configure, es.validated c (cs.lockFrameLimit.counted 2 1),
        cs.lockFrameLimit.counted 2 1) ∧
      er.receive mac rc cr configure = (.ok (some c),
        er.validated c (cr.lockFrameLimit.counted 1 2), cr.lockFrameLimit.counted 1 2) ∧
      (er.validated c (cr.lockFrameLimit.counted 1 2)).acknowledge mac rc
        (cr.lockFrameLimit.counted 1 2) (manifestFromConfiguration c) = (.ok configured,
          { er.validated c (cr.lockFrameLimit.counted 1 2) with state := .acknowledgementPending },
          cr.lockFrameLimit.counted 2 2) ∧
      SidecarConfigurationExchange.completeAcknowledgement
        { er.validated c (cr.lockFrameLimit.counted 1 2) with state := .acknowledgementPending }
        (cr.lockFrameLimit.counted 2 2) = (.ok (),
          { er.validated c (cr.lockFrameLimit.counted 1 2) with state := .configured },
          cr.lockFrameLimit.counted 2 2) ∧
      (es.validated c (cs.lockFrameLimit.counted 2 1)).receive mac rc
        (cs.lockFrameLimit.counted 2 1) configured = (.ok none,
          { es.validated c (cs.lockFrameLimit.counted 2 1) with state := .configured },
          cs.lockFrameLimit.counted 2 2) ∧
      SidecarRuntimeBridge.activate
        { er.validated c (cr.lockFrameLimit.counted 1 2) with state := .configured }
        (cr.lockFrameLimit.counted 2 2) = (.ok b,
          { er.validated c (cr.lockFrameLimit.counted 1 2) with state := .activated },
          cr.lockFrameLimit.counted 2 2) ∧
      Enforces b.runtime c ⟨cr.maxPayloadBytes, cr.instanceId⟩ := by
  obtain ⟨configure, hseal, hopen⟩ := hdeliver.lock.deliver mac 1 2 1 1 hconf.configure_fits
    (hx hconf.configure_fits.1) (by decide) (by decide)
  obtain ⟨configured, hseal', hopen'⟩ := hdeliver'.lock.deliver mac 1 2 2 2 hconf.configured_fits
    (hx' hconf.configured_fits.1) (by decide) (by decide)
  have hlock : cs.lockFrameLimit.counted 1 1 = cs.lockFrameLimit := by
    rw [← hes.counted]
    rfl
  have hlock' : cr.lockFrameLimit.counted 1 1 = cr.lockFrameLimit := by
    rw [← her.counted]
    rfl
  rw [hlock] at hseal
  rw [hlock'] at hopen
  have hbound := hes.bound
  have hbound' := her.bound
  have hbound₂ : (cr.lockFrameLimit.counted 2 2).instanceId = er.channelInstanceId := hbound'
  have hlive₂ : (cr.lockFrameLimit.counted 2 2).retired = false := hdeliver'.live
  obtain ⟨runtime, hbuild, henforces⟩ := buildCommandRuntime_enforces hconf.valid
    ⟨cr.maxPayloadBytes, cr.instanceId⟩
  obtain ⟨b, hruntime, hactivate⟩ := SidecarRuntimeBridge.activate_eq
    (e := { er.validated c (cr.lockFrameLimit.counted 1 2) with state := .configured })
    hbound₂ hlive₂ her.role_eq rfl rfl rfl rfl hbuild
  refine ⟨configure, configured, b, ?_, ?_, ?_, ?_, ?_, hactivate, hruntime ▸ henforces⟩
  · exact SidecarConfigurationExchange.start_eq hbound hes.role_eq hes.channelRole (hes.starting rfl)
      (hconf.validate hes.selection_eq hes.version_eq rfl) hseal
  · exact SidecarConfigurationExchange.receive_eq hbound' (her.channelRole.trans her.role_eq.symm)
      hopen (SidecarConfigurationExchange.receiveMessage_configure_eq her.role_eq (her.awaiting rfl)
        (hconf.validate her.selection_eq her.version_eq hdeliver.maxPayloadBytes))
  · exact SidecarConfigurationExchange.acknowledge_eq hbound' her.role_eq her.channelRole rfl rfl hseal'
  · exact SidecarConfigurationExchange.completeAcknowledgement_eq hbound' her.role_eq hlive₂ rfl
  · exact SidecarConfigurationExchange.receive_eq hbound (hes.channelRole.trans hes.role_eq.symm)
      hopen' (SidecarConfigurationExchange.receiveMessage_configured_eq hes.role_eq rfl rfl)

/-- The honest run ends with a configured supervisor and a bridge on the runtime side. -/
theorem honest_configuration (mac : Mac) {c : SidecarRuntimeConfiguration}
    (hx : rc.Exact (.configure c)) (hx' : rc.Exact (.configured (manifestFromConfiguration c)))
    (hok : w.Ok mac hc rc s) (hps : w.party .supervisor = ⟨cs, .handshake hs⟩)
    (hpr : w.party .runtime = ⟨cr, .handshake hr⟩) (has : hs.AuthenticatedOn cs)
    (har : hr.AuthenticatedOn cr)
    (hconf : ∀ n, s.Holds .supervisor cs hs n → HonestConfiguration rc s n c cs cr) :
    ∃ w' cs' e' b, (configurationSystem mac hc rc s).Run w w' ∧
      w'.party .supervisor = ⟨cs', .exchange hs e'⟩ ∧ e'.state = .configured ∧
      e'.configuration = some c ∧ .activated b ∈ w'.log := by
  obtain ⟨n, es, er, hnew, hnew', hholds, hdeliver, hdeliver', hes, her⟩ :=
    hok.new_exchanges hps hpr has har
  have hne : SidecarPeerRole.runtime ≠ .supervisor := by decide
  obtain ⟨configure, configured, b, hstart, hreceive, hacknowledge, hcomplete, hreceive', hactivate,
    -⟩ := (hconf n hholds).completes mac hx hx' hdeliver hdeliver' hes her
  -- Each peer binds its exchange, then the supervisor sends the configuration.
  obtain ⟨w₁, hrun₁, hps₁, hpr₁⟩ : ∃ w', (configurationSystem mac hc rc s).Run w w' ∧
      w'.party .supervisor = ⟨cs, .exchange hs es⟩ ∧ w'.party .runtime = ⟨cr, .handshake hr⟩ :=
    ⟨_, .single (.newExchange hps hnew), SidecarRun.set_self _ _ _,
      (SidecarRun.set_ne _ _ hne).trans hpr⟩
  obtain ⟨w₂, hrun₂, hps₂, hpr₂⟩ : ∃ w', (configurationSystem mac hc rc s).Run w₁ w' ∧
      w'.party .supervisor = ⟨cs, .exchange hs es⟩ ∧ w'.party .runtime = ⟨cr, .exchange hr er⟩ :=
    ⟨_, .single (.newExchange hpr₁ hnew'), (SidecarRun.set_ne _ _ hne.symm).trans hps₁,
      SidecarRun.set_self _ _ _⟩
  obtain ⟨w₃, hrun₃, hps₃, hpr₃, hsent⟩ := reached (configurationSystem mac hc rc s)
    (.start hps₂ hstart) (SidecarRun.after_self _ _ _ _ _) (SidecarRun.after_ne _ _ hne hpr₂)
    (List.mem_append_right _ (List.mem_singleton_self _))
  -- The runtime keeps it, acknowledges its manifest and commits.
  obtain ⟨w₄, hrun₄, hpr₄, hps₄, -⟩ := reached (configurationSystem mac hc rc s)
    (.receive hpr₃ (fun _ => hsent) hreceive) (SidecarRun.after_self _ _ _ _ _)
    (SidecarRun.after_ne _ _ hne.symm hps₃) (List.mem_append_left _ hsent)
  obtain ⟨w₅, hrun₅, hpr₅, hps₅, hsent'⟩ := reached (configurationSystem mac hc rc s)
    (.acknowledge hpr₄ hacknowledge) (SidecarRun.after_self _ _ _ _ _)
    (SidecarRun.after_ne _ _ hne.symm hps₄)
    (List.mem_append_right _ (List.mem_singleton_self _))
  obtain ⟨w₆, hrun₆, hpr₆, hps₆, hsent'⟩ := reached (configurationSystem mac hc rc s)
    (.completeAcknowledgement hpr₅ hcomplete) (SidecarRun.after_self _ _ _ _ _)
    (SidecarRun.after_ne _ _ hne.symm hps₅) (List.mem_append_left _ hsent')
  -- The supervisor confirms the manifest, and the runtime side activates the bridge.
  obtain ⟨w₇, hrun₇, hps₇, hpr₇, -⟩ := reached (configurationSystem mac hc rc s)
    (.receive hps₆ (fun _ => hsent') hreceive') (SidecarRun.after_self _ _ _ _ _)
    (SidecarRun.after_ne _ _ hne hpr₆) (List.mem_append_left _ hsent')
  have hstep : (configurationSystem mac hc rc s).Step w₇ _ _ := .activate hpr₇ hactivate
  refine ⟨_, _, _, b, ((((((hrun₁.trans hrun₂).trans hrun₃).trans hrun₄).trans hrun₅).trans
    hrun₆).trans hrun₇).snoc hstep, SidecarRun.after_ne _ _ hne.symm hps₇, rfl, rfl, ?_⟩
  exact List.mem_append_right _ (List.mem_singleton_self _)

end OpenclawNode.Sidecar
