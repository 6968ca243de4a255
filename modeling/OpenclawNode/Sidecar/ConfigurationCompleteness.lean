import OpenclawNode.Base.JsonSize
import OpenclawNode.Sidecar.ConfigurationAgreement
import OpenclawNode.Sidecar.FailClosed
import OpenclawNode.Sidecar.Preflight

/-! Whatever configuration the supervisor can send, an honest pair of peers brings to a bridge. -/
namespace OpenclawNode.Sidecar

open BigEndian (Bytes)
open BoundedWriter (Codec)
open Json (string object array length_object_cons length_array_perm length_array_mono)
open Transition (System)

section

variable {formatDouble : Json.Double → String} {c : SidecarRuntimeConfiguration}

theorem failed_configuration : c.serialize.failed = false ↔
    c.manifestGeneration ≤ maxPortableJsonInteger := by
  rw [← failed_serializePortableU64]
  simp [SidecarRuntimeConfiguration.serialize, Json.failed_object, Json.failed_array, Json.nat,
    Function.comp_def]

theorem failed_manifest : (manifestFromConfiguration c).serialize.failed = false ↔
    c.manifestGeneration ≤ maxPortableJsonInteger := by
  rw [← failed_serializePortableU64]
  simp [SidecarRuntimeManifest.serialize, manifestFromConfiguration, Json.failed_object,
    Json.failed_array, Function.comp_def]

/-- The sorted names take as many bytes as the names in their first order. -/
theorem length_names (names : List String) :
    (array (names.mergeSort.map string)).output.length = (array (names.map string)).output.length :=
  length_array_perm (by simp) ((List.mergeSort_perm names _).map string).symm

/-- A command takes more bytes as a registration than as a name. -/
theorem length_commands (commands : List SidecarCommandRegistration) :
    (array ((commands.map SidecarCommandRegistration.name).map string)).output.length ≤
      (array (commands.map fun command => object [("name", string command.name)])).output.length := by
  rw [List.map_map]
  refine length_array_mono commands (fun _ => Json.failed_string _)
    (fun command => by simp [Json.failed_object]) ?_
  intro command
  rw [length_object_cons (by simp)]
  simp only [List.map_cons, List.map_nil, List.sum_cons, List.sum_nil, Function.comp_apply]
  omega

theorem length_manifest (h : c.manifestGeneration ≤ maxPortableJsonInteger) :
    (manifestFromConfiguration c).serialize.output.length + 30 ≤ c.serialize.output.length := by
  have hgen := failed_serializePortableU64.mpr h
  have hmanifest := failed_manifest.mpr h
  have hconfiguration := failed_configuration.mpr h
  have hlimits : (string "maxConcurrency").output.length = 16 ∧
      (string "maxInputBytes").output.length = 15 := by decide
  have hcommands := length_commands c.commands
  rw [SidecarRuntimeManifest.serialize, Json.failed_object] at hmanifest
  rw [SidecarRuntimeConfiguration.serialize, Json.failed_object] at hconfiguration
  rw [SidecarRuntimeManifest.serialize, SidecarRuntimeConfiguration.serialize,
    length_object_cons (by simpa using hmanifest), length_object_cons (by simpa using hconfiguration)]
  simp only [List.map_cons, List.map_nil, List.sum_cons, List.sum_nil, manifestFromConfiguration,
    length_names, SidecarRuntimeConfiguration.commandNames]
  omega

/-- The acknowledgement takes no more room than the configuration it acknowledges. -/
theorem length_configured (hf : (SidecarRuntimeMessage.serialize formatDouble
    (.configure c)).failed = false) :
    (SidecarRuntimeMessage.serialize formatDouble
        (.configured (manifestFromConfiguration c))).failed = false ∧
      (SidecarRuntimeMessage.serialize formatDouble
        (.configured (manifestFromConfiguration c))).output.length ≤
        (SidecarRuntimeMessage.serialize formatDouble (.configure c)).output.length := by
  have hconfiguration : c.serialize.failed = false := by
    simpa [SidecarRuntimeMessage.serialize, Json.failed_object] using hf
  have hgen := failed_configuration.mp hconfiguration
  have hmanifest := failed_manifest.mpr hgen
  have hlen := length_manifest hgen
  have hnames : (string "configured").output.length = 12 ∧ (string "configure").output.length = 11 ∧
      (string "manifest").output.length = 10 ∧ (string "configuration").output.length = 15 := by
    decide
  constructor
  · simp [SidecarRuntimeMessage.serialize, Json.failed_object, hmanifest]
  · rw [SidecarRuntimeMessage.serialize, SidecarRuntimeMessage.serialize,
      length_object_cons (by simp [hmanifest]), length_object_cons (by simp [hconfiguration])]
    simp only [List.map_cons, List.map_nil, List.sum_cons, List.sum_nil]
    omega

end

variable {mac : Mac} {hc : Codec SidecarHandshakeMessage} {s : SidecarSession} {w : SidecarRun}

/-- A handshake that has begun is bound to a channel. -/
def SidecarHandshake.BoundOnceBegun (h : SidecarHandshake) : Prop :=
  h.state = .starting ∨ h.state = .failed ∨ h.channelInstanceId ≠ none

theorem SidecarHandshake.BoundOnceBegun.call {h h' : SidecarHandshake} {a : SidecarHandshake.Call}
    {ch ch' : AuthenticatedSidecarChannel} {result : Except SidecarHandshakeError Unit}
    (hb : h.BoundOnceBegun) (hres : h.call mac hc a ch = (result, h', ch')) :
    h'.BoundOnceBegun := by
  have hlawful : (SidecarHandshake.machine mac hc).Lawful := SidecarHandshake.lawful
  have hends := hlawful.ends h a ch
  have hcall : (SidecarHandshake.machine mac hc).call h a ch = (result, h', ch') := hres
  rw [hcall] at hends
  cases hends with
  | mismatch _ _ => exact hb
  | failed _ _ _ hf _ _ _ _ => exact Or.inr (Or.inl hf)
  | done _ hbound _ _ _ _ =>
    have hsome : h'.channelInstanceId = some ch.instanceId := hbound
    exact Or.inr (Or.inr (by simp [hsome]))

theorem boundOnceBegun_step {a : HandshakeAction} {w' : SidecarRun}
    (hs : HandshakeStep mac hc s w a w')
    (hb : ∀ role ch h, w.party role = ⟨ch, .handshake h⟩ → h.BoundOnceBegun) :
    ∀ role ch h, w'.party role = ⟨ch, .handshake h⟩ → h.BoundOnceBegun := by
  have hset : ∀ role' ch' h', h'.BoundOnceBegun → ∀ role ch h,
      (w.set role' ⟨ch', .handshake h'⟩).party role = ⟨ch, .handshake h⟩ → h.BoundOnceBegun := by
    intro role' ch' h' hb' role ch h hp
    by_cases hr : role = role'
    · subst hr
      rw [SidecarRun.set_self] at hp
      cases hp
      exact hb'
    · rw [SidecarRun.set_ne _ _ hr] at hp
      exact hb role ch h hp
  cases hs with
  | start hp hres =>
    exact hset _ _ _ ((hb _ _ _ hp).call (a := .start) (by rw [SidecarHandshake.call, hres]; rfl))
  | @receive role frame ch h result h' ch' hp _ hres =>
    exact hset _ _ _ ((hb _ _ _ hp).call (a := .receive frame)
      (by rw [SidecarHandshake.call, hres]; rfl))
  | @completeAcceptance role ch h result h' ch' hp hres =>
    have hcall : h.call mac hc .completeAcceptance ch = (result, h', ch') := by
      rw [SidecarHandshake.call, hres]
      cases result <;> rfl
    exact hset _ _ _ ((hb _ _ _ hp).call hcall)
  | @retire role' ch' phase hp =>
    intro role ch h hp'
    by_cases hr : role = role'
    · subst hr
      rw [SidecarRun.set_self] at hp'
      cases hp'
      exact hb _ _ _ hp
    · rw [SidecarRun.set_ne _ _ hr] at hp'
      exact hb role ch h hp'

theorem authenticated_bound (hx : ∀ message, hc.Exact message)
    (hw : (handshakeSystem mac hc s).Reachable w) {role : SidecarPeerRole}
    {ch : AuthenticatedSidecarChannel} {h : SidecarHandshake}
    (hp : w.party role = ⟨ch, .handshake h⟩) (ha : h.state = .authenticated) :
    h.channelInstanceId = some ch.instanceId := by
  have hbegun : h.BoundOnceBegun := by
    refine hw.invariant (P := fun w => ∀ role ch h, w.party role = ⟨ch, .handshake h⟩ →
      h.BoundOnceBegun) ?_ (fun _ _ _ hs hb => boundOnceBegun_step hs hb) role ch h hp
    intro w hi role ch h hp
    obtain ⟨ch', h', _, _, hp', -, hnew⟩ := hi.1 role
    rw [hp] at hp'
    cases hp'
    obtain ⟨-, rfl⟩ := SidecarHandshake.new_eq_ok hnew
    exact Or.inl rfl
  have hok : w.Ok mac hc ⟨fun _ => .fail, fun _ => none⟩ s := ok_handshake_reachable hx hw
  rcases hok.handshake hp with hf | hparty
  · simp [ha] at hf
  rcases hparty.binds with hb | hb
  · rcases hbegun with hs | hf | hn
    · simp [ha] at hs
    · simp [ha] at hf
    · exact absurd hb hn
  · exact hb

theorem mergeSort_strict {names : List String} (hn : names.Nodup) :
    names.mergeSort.Pairwise (· < ·) :=
  (List.pairwise_mergeSort' (· ≤ ·) names).imp₂ (fun _ _ => Std.lt_of_le_of_ne)
    ((List.mergeSort_perm names _).nodup_iff.mpr hn)

/-- A configuration that the supervisor's exchange could send satisfies both sides. -/
theorem HonestConfiguration.of_start {formatDouble : Json.Double → String}
    {deserialize : Bytes → Option SidecarRuntimeMessage} {n : NegotiatedSidecarProtocol}
    {cs cs' cr : AuthenticatedSidecarChannel} {es es' : SidecarConfigurationExchange}
    {c : SidecarRuntimeConfiguration} {frame : Bytes}
    (hes : es.NewOn .supervisor cs n.selection (s.offer .runtime).peer.version)
    (hmax : cr.maxPayloadBytes = cs.maxPayloadBytes)
    (hs : es.start mac (runtimeCodec formatDouble deserialize) cs c = (.ok frame, es', cs')) :
    HonestConfiguration (runtimeCodec formatDouble deserialize) s n c cs cr := by
  rcases es.start_cases mac (runtimeCodec formatDouble deserialize) cs c with
    hr | ⟨-, -, -, -, hv, sealed, ch, hseal, -⟩
  · rw [hs] at hr
    cases hr
  · rw [SidecarConfigurationExchange.validate, hes.selection_eq, hes.version_eq,
      Except.bind_eq_ok] at hv
    obtain ⟨_, hvalid, hstatus⟩ := hv
    obtain ⟨-, -, hf, hfit, -, -⟩ := AuthenticatedSidecarChannel.seal_eq_ok.mp hseal
    have hsmaller := @length_configured formatDouble c hf
    exact ⟨hvalid, hstatus, ⟨hf, hfit⟩, hsmaller.1, (hsmaller.2.trans hfit).trans_eq hmax.symm⟩

/-- Honest completeness: whatever configuration the supervisor's exchange can send after the
handshake is received as it was sent, its manifest is acknowledged, the supervisor is configured
and the bridge is activated, with the configured names in order and the configured limits. -/
theorem configuration_completeness (mac : Mac) (hc : Codec SidecarHandshakeMessage)
    (hx : ∀ message, hc.Exact message) (s : SidecarSession) (w : SidecarRun)
    (hw : (handshakeSystem mac hc s).Reachable w) {cs cr : AuthenticatedSidecarChannel}
    {hs hr : SidecarHandshake} (hps : w.party .supervisor = ⟨cs, .handshake hs⟩)
    (hpr : w.party .runtime = ⟨cr, .handshake hr⟩) (has : hs.state = .authenticated)
    (har : hr.state = .authenticated) (hlive : cs.retired = false) (hlive' : cr.retired = false)
    (formatDouble : Json.Double → String) (deserialize : Bytes → Option SidecarRuntimeMessage)
    (c : SidecarRuntimeConfiguration)
    (hx' : (runtimeCodec formatDouble deserialize).Exact (.configure c))
    (hx'' : (runtimeCodec formatDouble deserialize).Exact
      (.configured (manifestFromConfiguration c))) :
    ∃ es er, SidecarConfigurationExchange.new hs = .ok es ∧
      SidecarConfigurationExchange.new hr = .ok er ∧ ∀ configure es₁ cs₁,
      es.start mac (runtimeCodec formatDouble deserialize) cs c = (.ok configure, es₁, cs₁) →
      ∃ er₁ cr₁, er.receive mac (runtimeCodec formatDouble deserialize) cr configure =
        (.ok (some c), er₁, cr₁) ∧
      ∃ manifest configured er₂ cr₂, er₁.expectedManifest = some manifest ∧
        er₁.acknowledge mac (runtimeCodec formatDouble deserialize) cr₁ manifest =
          (.ok configured, er₂, cr₂) ∧
      (∃ es₂ cs₂, es₁.receive mac (runtimeCodec formatDouble deserialize) cs₁ configured =
        (.ok none, es₂, cs₂) ∧ es₂.state = .configured) ∧
      ∃ er₃ cr₃, er₂.completeAcknowledgement cr₂ = (.ok (), er₃, cr₃) ∧
      ∃ b er₄ cr₄, SidecarRuntimeBridge.activate er₃ cr₃ = (.ok b, er₄, cr₄) ∧
        (∃ binding, Enforces b.runtime c binding) ∧
        b.runtime.commandNames.Pairwise (· < ·) ∧ b.runtime.capabilityNames.Pairwise (· < ·) := by
  have hok : w.Ok mac hc (runtimeCodec formatDouble deserialize) s := ok_handshake_reachable hx hw
  obtain ⟨n, es, er, hnew, hnew', -, hdeliver, hdeliver', hes, her⟩ := hok.new_exchanges hps hpr
    ⟨has, authenticated_bound hx hw hps has, hlive⟩ ⟨har, authenticated_bound hx hw hpr har, hlive'⟩
  refine ⟨es, er, hnew, hnew', ?_⟩
  intro configure es₁ cs₁ hstart
  have hconf := HonestConfiguration.of_start hes hdeliver.maxPayloadBytes hstart
  obtain ⟨sent, configured, b, hstart', hreceive, hacknowledge, hcomplete, hreceive', hactivate,
    henforces⟩ := hconf.completes mac hx' hx'' hdeliver hdeliver' hes her
  rw [hstart] at hstart'
  cases hstart'
  have hvalid := validateConfiguration_eq_ok hconf.valid
  refine ⟨_, _, hreceive, _, configured, _, _, rfl, hacknowledge, ⟨_, _, hreceive', rfl⟩, _, _,
    hcomplete, b, _, _, hactivate, ⟨_, henforces⟩, ?_, ?_⟩
  · rw [henforces.commandNames]
    exact mergeSort_strict hvalid.commands.2
  · rw [henforces.capabilityNames]
    exact mergeSort_strict hvalid.capabilities.2

/-- The reader of the vector next to the real serializer; the vector has no doubles. -/
def vectorWireCodec : Codec SidecarRuntimeMessage :=
  runtimeCodec (fun _ => "0.5") vectorRuntimeCodec.deserialize

theorem vectorWireCodec_serialize :
    vectorWireCodec.serialize (.configure vectorConfiguration) =
        vectorRuntimeCodec.serialize (.configure vectorConfiguration) ∧
      vectorWireCodec.serialize (.configured vectorManifest) =
        vectorRuntimeCodec.serialize (.configured vectorManifest) := by
  simp [vectorWireCodec, runtimeCodec, vectorRuntimeCodec, SidecarRuntimeMessage.serialize]

theorem vectorWireCodec_configure : vectorWireCodec.Exact (.configure vectorConfiguration) :=
  (vectorRuntimeCodec_configure _).of_eq vectorWireCodec_serialize.1 rfl

theorem vectorWireCodec_configured :
    vectorWireCodec.Exact (.configured (manifestFromConfiguration vectorConfiguration)) := by
  rw [vector_manifest]
  exact (vectorRuntimeCodec_configured _).of_eq vectorWireCodec_serialize.2 rfl

theorem vector_wire_configuration {cs cr : AuthenticatedSidecarChannel}
    (hs : vectorSession.Owns .supervisor cs) (hr : vectorSession.Owns .runtime cr)
    (hmax : cs.maxFrameBytes = 2048) (hmax' : cr.maxFrameBytes = 2048) :
    HonestConfiguration vectorWireCodec vectorSession (vectorNegotiated .runtime)
      vectorConfiguration cs cr := by
  have hconf := vector_configuration hs hr hmax hmax'
  refine ⟨hconf.valid, hconf.status_fits, ?_, ?_⟩
  · rw [vectorWireCodec_serialize.1]
    exact hconf.configure_fits
  · have hfits := hconf.configured_fits
    rw [vector_manifest] at hfits ⊢
    rw [vectorWireCodec_serialize.2]
    exact hfits

/-- The vector's configuration is sent with the real serializer, and a runtime enforces it. -/
theorem vector_completed : ∃ w cs hs es configure es' cs' b,
    (handshakeSystem vectorMac vectorCodec vectorSession).Reachable w ∧
    w.party .supervisor = ⟨cs, .handshake hs⟩ ∧ SidecarConfigurationExchange.new hs = .ok es ∧
    es.start vectorMac vectorWireCodec cs vectorConfiguration = (.ok configure, es', cs') ∧
    ∃ binding, Enforces b vectorConfiguration binding := by
  obtain ⟨w, cs, hs, cr, hr, hrun, hps, has, hpr, har⟩ := honest_handshake vectorMac
    (w := vectorStart) vectorCodec_exact vector_honest rfl rfl (vector_new .supervisor)
    (vector_new .runtime)
  have hw := (System.Reachable.initial (S := handshakeSystem vectorMac vectorCodec vectorSession)
    vectorStart_initial).run hrun
  obtain ⟨es, er, hnew, hnew', hcomplete⟩ := configuration_completeness vectorMac vectorCodec
    vectorCodec_exact vectorSession w hw hps hpr has.state har.state has.live har.live
    (fun _ => "0.5") vectorRuntimeCodec.deserialize vectorConfiguration vectorWireCodec_configure
    vectorWireCodec_configured
  have hok : w.Ok vectorMac vectorCodec vectorWireCodec vectorSession :=
    ok_handshake_reachable vectorCodec_exact hw
  obtain ⟨m, -, howns', hholds', -⟩ := hok.new_exchange hpr har
  obtain ⟨n, es', er', hnew₁, -, hholds, hdeliver, hdeliver', hes, her⟩ :=
    hok.new_exchanges hps hpr has har
  obtain ⟨-, -, howns, -⟩ := hok.new_exchange hps has
  have hn : vectorNegotiated .runtime = n :=
    Except.ok.inj (vector_honest.negotiates'.symm.trans hholds.negotiates)
  have hm : vectorNegotiated .supervisor = m :=
    Except.ok.inj (vector_honest.negotiates.symm.trans hholds'.negotiates)
  have hsame : es' = es := Except.ok.inj (hnew₁.symm.trans hnew)
  subst hn hm hsame
  obtain ⟨configure, -, -, hstart, -⟩ := (vector_wire_configuration howns howns'
    hholds.maxFrameBytes hholds'.maxFrameBytes).completes vectorMac
      vectorWireCodec_configure vectorWireCodec_configured hdeliver hdeliver' hes her
  obtain ⟨-, -, -, -, -, -, -, -, -, -, -, -, -, b, -, -, -, henforces, -⟩ :=
    hcomplete configure _ _ hstart
  exact ⟨w, cs, hs, es', configure, _, _, b.runtime, hw, hps, hnew, hstart, henforces⟩

end OpenclawNode.Sidecar
