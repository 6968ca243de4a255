import OpenclawNode.Sidecar.HandshakeAgreement
import OpenclawNode.Sidecar.HonestConfiguration

/-! A configured supervisor and an active bridge agree on the one configuration that was sent. -/
namespace OpenclawNode.Sidecar

open BoundedWriter (Codec)
open Json (object string)
open Transition (System)

/-- Configuration agreement: a configured supervisor's configuration was accepted and acknowledged
by the runtime, and a bridge is only ever activated after the runtime authenticated and committed,
to serve exactly the one configuration that the supervisor sealed. -/
theorem configuration_agreement (mac : Mac) (hc : Codec SidecarHandshakeMessage)
    (rc : Codec SidecarRuntimeMessage) (hx : ∀ message, hc.Exact message)
    (hx' : ∀ c, rc.Exact (.configure c)) (hx'' : ∀ manifest, rc.Exact (.configured manifest))
    (s : SidecarSession) (w : SidecarRun) (hw : (configurationSystem mac hc rc s).Reachable w) :
    (∀ ch h e, w.party .supervisor = ⟨ch, .exchange h e⟩ → e.state = .configured →
      ∃ c, e.configuration = some c ∧ e.expectedManifest = some (manifestFromConfiguration c) ∧
        .configured c ∈ w.log ∧ .accepted c ∈ w.log ∧ (∀ c', .accepted c' ∈ w.log → c' = c) ∧
        .acknowledged (manifestFromConfiguration c) ∈ w.log) ∧
    ∀ b, .activated b ∈ w.log →
      (∃ ch h e, w.party .runtime = ⟨ch, .exchange h e⟩ ∧ h.state = .authenticated) ∧
      .committed ∈ w.log ∧
      ∃ c, .configured c ∈ w.log ∧ (∀ c', .configured c' ∈ w.log → c' = c) ∧
        .accepted c ∈ w.log ∧ .acknowledged (manifestFromConfiguration c) ∈ w.log ∧
        b.manifest = manifestFromConfiguration c ∧ ∃ binding, Enforces b.runtime c binding := by
  have hok := ok_configuration_reachable hx hx' hx'' hw
  constructor
  · intro ch h e hp hstate
    rcases hok.exchange hp with hf | hparty
    · simp [hstate] at hf
    cases hparty.progress with
    | starting hs _ => simp [hstate] at hs
    | sent hs _ _ _ => simp [hstate] at hs
    | @confirmed _ _ c _ _ hkeep hsent hack =>
      have honly : ∀ c', .accepted c' ∈ w.log → c' = c := fun c' hacc =>
        hok.log.configured_unique (hok.log.configured_of_accepted hacc) hsent
      obtain ⟨c', hacc, -⟩ := hok.log.accepted_of_acknowledged hack
      have hsame := honly c' hacc
      subst hsame
      exact ⟨c', hkeep.1, hkeep.2, hsent, hacc, honly, hack⟩
  · intro b hb
    obtain ⟨c, hacc, hack, hcommit, hserves⟩ := hok.log.served_of_activated hb
    have hsent := hok.log.configured_of_accepted hacc
    obtain ⟨selection, hvalid⟩ := hserves.valid
    obtain ⟨binding, hbuilt⟩ := hserves.built
    obtain ⟨runtime, hbuilt', henforces⟩ := buildCommandRuntime_enforces hvalid binding
    have hsame : runtime = b.runtime := Except.ok.inj (hbuilt'.symm.trans hbuilt)
    refine ⟨?_, hcommit, c, hsent, fun c' hc' => hok.log.configured_unique hc' hsent, hacc, hack,
      hserves.manifest, binding, hsame ▸ henforces⟩
    have hauth := hok.authenticated b hb
    cases hp : w.party .runtime with
    | mk ch phase =>
      rw [hp] at hauth
      cases phase with
      | handshake h => exact hauth.elim
      | exchange h e => exact ⟨ch, h, e, rfl, hauth⟩
      | refused => exact hauth.elim

/-- The configuration of the runtime vector. -/
def vectorConfiguration : SidecarRuntimeConfiguration where
  manifestGeneration := 3
  capabilities := ["native.settings", "native.status"]
  commands := [⟨"product.settings"⟩, ⟨"product.status"⟩]
  maxConcurrency := 2
  maxInputBytes := 1024
  maxOutputBytes := 1024
  defaultTimeoutMs := 1000
  maxTimeoutMs := 5000
  resultGraceMs := 50

def vectorManifest : SidecarRuntimeManifest where
  manifestGeneration := 3
  capabilities := ["native.settings", "native.status"]
  commands := ["product.settings", "product.status"]

/-- The configuration and its manifest as the serializer writes them, and every status. -/
def vectorRuntimeCodec : Codec SidecarRuntimeMessage where
  serialize
    | .configure c => if c = vectorConfiguration then
        object [("type", string "configure"), ("configuration", c.serialize)] else .fail
    | .configured manifest => if manifest = vectorManifest then
        object [("type", string "configured"), ("manifest", manifest.serialize)] else .fail
    | .status current => object [("type", string "status"), ("status", current.serialize)]
    | _ => .fail
  deserialize bytes :=
    if bytes = (object [("type", string "configure"),
        ("configuration", vectorConfiguration.serialize)]).output then
      some (.configure vectorConfiguration)
    else if bytes = (object [("type", string "configured"),
        ("manifest", vectorManifest.serialize)]).output then some (.configured vectorManifest)
    else none

theorem vector_manifest : manifestFromConfiguration vectorConfiguration = vectorManifest := by
  have hcapabilities : ["native.settings", "native.status"].mergeSort =
      ["native.settings", "native.status"] := List.mergeSort_of_pairwise (by decide)
  have hcommands : ["product.settings", "product.status"].mergeSort =
      ["product.settings", "product.status"] := List.mergeSort_of_pairwise (by decide)
  simp [manifestFromConfiguration, SidecarRuntimeConfiguration.commandNames, vectorConfiguration,
    vectorManifest, hcapabilities, hcommands]

theorem vectorRuntimeCodec_configure (c : SidecarRuntimeConfiguration) :
    vectorRuntimeCodec.Exact (.configure c) := by
  intro hf
  by_cases hc : c = vectorConfiguration
  · subst hc
    simp [vectorRuntimeCodec]
  · simp [vectorRuntimeCodec, hc] at hf

theorem vectorRuntimeCodec_configured (manifest : SidecarRuntimeManifest) :
    vectorRuntimeCodec.Exact (.configured manifest) := by
  intro hf
  by_cases hm : manifest = vectorManifest
  · subst hm
    have hne : (object [("type", string "configured"),
        ("manifest", vectorManifest.serialize)]).output ≠
        (object [("type", string "configure"),
          ("configuration", vectorConfiguration.serialize)]).output := by
      decide +kernel
    simp [vectorRuntimeCodec, hne]
  · simp [vectorRuntimeCodec, hm] at hf

theorem vector_configuration {cs cr : AuthenticatedSidecarChannel}
    (hs : vectorSession.Owns .supervisor cs) (hr : vectorSession.Owns .runtime cr)
    (hmax : cs.maxFrameBytes = 2048) (hmax' : cr.maxFrameBytes = 2048) :
    HonestConfiguration vectorRuntimeCodec vectorSession (vectorNegotiated .runtime)
      vectorConfiguration cs cr := by
  have hroom : cs.maxPayloadBytes = 1968 := by
    rw [AuthenticatedSidecarChannel.maxPayloadBytes, hmax, hs.sessionId]
    decide
  have hroom' : cr.maxPayloadBytes = 1968 := by
    rw [AuthenticatedSidecarChannel.maxPayloadBytes, hmax', hr.sessionId]
    decide
  constructor
  case valid => decide +kernel
  case status_fits =>
    rw [hroom]
    decide +kernel
  case configure_fits =>
    rw [AuthenticatedSidecarChannel.Carries, hroom]
    constructor <;> decide +kernel
  case configured_fits =>
    rw [AuthenticatedSidecarChannel.Carries, hroom', vector_manifest]
    constructor <;> decide +kernel

/-- The vector ends in a configured supervisor and a bridge that serves its configuration. -/
theorem vector_configured : ∃ w ch h e b,
    (configurationSystem vectorMac vectorCodec vectorRuntimeCodec vectorSession).Reachable w ∧
    w.party .supervisor = ⟨ch, .exchange h e⟩ ∧ e.state = .configured ∧
    .activated b ∈ w.log ∧ .accepted vectorConfiguration ∈ w.log ∧
    b.manifest = vectorManifest ∧ ∃ binding, Enforces b.runtime vectorConfiguration binding := by
  obtain ⟨w, cs, hs, cr, hr, hrun, hps, has, hpr, har⟩ := honest_handshake vectorMac
    (w := vectorStart) vectorCodec_exact vector_honest rfl rfl (vector_new .supervisor)
    (vector_new .runtime)
  have hw := (System.Reachable.initial (S := handshakeSystem vectorMac vectorCodec vectorSession)
    vectorStart_initial).run hrun
  have hok : w.Ok vectorMac vectorCodec vectorRuntimeCodec vectorSession :=
    ok_handshake_reachable vectorCodec_exact hw
  obtain ⟨n, -, howns, hholds, -⟩ := hok.new_exchange hps has
  obtain ⟨m, -, howns', hholds', -⟩ := hok.new_exchange hpr har
  have hn : vectorNegotiated .runtime = n :=
    Except.ok.inj (vector_honest.negotiates'.symm.trans hholds.negotiates)
  have hm : vectorNegotiated .supervisor = m :=
    Except.ok.inj (vector_honest.negotiates.symm.trans hholds'.negotiates)
  subst hn hm
  have hconf := vector_configuration howns howns' hholds.maxFrameBytes hholds'.maxFrameBytes
  obtain ⟨w', ch, e, b, hrun', hp, hstate, hc, hb⟩ := honest_configuration vectorMac
    (vectorRuntimeCodec_configure _) (vectorRuntimeCodec_configured _) hok hps hpr has har
    (fun n hn => by
      have hsame : vectorNegotiated .runtime = n :=
        Except.ok.inj (vector_honest.negotiates'.symm.trans hn.negotiates)
      exact hsame ▸ hconf)
  have hw' := (reachable_of_handshake vectorRuntimeCodec hw).run hrun'
  obtain ⟨hagree, hserve⟩ := configuration_agreement vectorMac vectorCodec vectorRuntimeCodec
    vectorCodec_exact vectorRuntimeCodec_configure vectorRuntimeCodec_configured vectorSession w' hw'
  obtain ⟨c, hc', -, -, hacc, honly, -⟩ := hagree ch hs e hp hstate
  have hsame : c = vectorConfiguration := Option.some.inj (hc'.symm.trans hc)
  subst hsame
  obtain ⟨-, -, c, -, -, hacc', -, hmanifest, henforces⟩ := hserve b hb
  have hsame := honly c hacc'
  subst hsame
  exact ⟨w', ch, hs, e, b, hw', hp, hstate, hb, hacc, hmanifest.trans vector_manifest, henforces⟩

end OpenclawNode.Sidecar
