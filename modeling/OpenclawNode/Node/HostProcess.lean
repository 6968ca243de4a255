import OpenclawNode.Node.HealthServer
import OpenclawNode.Node.HostConfig
import OpenclawNode.Node.HostCredentialRuns
import OpenclawNode.Node.LifecycleTrace

/-! A headless host as a whole: its connections and its health endpoint side by side. -/
namespace OpenclawNode.Node

open BigEndian (Bytes)
open Transition (System)

def pauseName : ReconnectPause → String
  | .devicePairing _ => "device-pairing"
  | .authentication _ => "authentication"
  | .protocol _ => "protocol"
  | .configuration => "configuration"
  | .localIdentity => "local-identity"

/-- What the end of the connections is to the host. -/
def hostResult : Except LifecycleError Unit → Except HostError Unit
  | .ok () => .ok ()
  | .error (.paused pause) => .error (.reconnectPaused (pauseName pause))

/-- What a host does before it serves anything: the listener is bound, and the runtime built. -/
def startHost {H P : Type} (config : HostConfig) (bind : Except String Unit) (status : H) :
    Except HostError (CommandRuntime H P) := do
  config.validate
  bind.mapError .healthBind
  (config.buildRuntime status).mapError .runtimeBuild

/-- A request that was answered, with what the lifecycle had emitted when its task looked. -/
structure HealthAnswer (ε : Type) where
  events : List LifecycleEvent
  pieces : List (Except ε Bytes)
  answer : Except (HealthError ε) HealthResponse

/-- Connections and health endpoint, which share the readiness, and what `run_host` returned. -/
structure HostProcess (Policy ε : Type) where
  host : HostRun Policy
  health : HealthServer
  answers : List (HealthAnswer ε)
  result : Option (Except HostError Unit)

namespace HostProcess

variable {Policy ε : Type}

/-- The answer of a step of the health endpoint that gives one. -/
def answer (p : HostProcess Policy ε) : HealthAction ε → List (HealthAnswer ε)
  | .read _ pieces =>
    [⟨p.host.lifecycle.events, pieces, serveHealthRequest p.host.ready pieces⟩]
  | .accepted | .acceptFailed | .retried | .written _ | .panicked _ | .joined _ | .aborted _ => []

end HostProcess

inductive HostProcessAction (ε : Type)
  | connections (action : HostAction)
  | health (action : HealthAction ε)
  | returned

/-- The steps of a host. Once it has returned, tasks of the health endpoint that are being aborted
may still go on to their next wait. -/
inductive HostProcessStep {Policy ε : Type} (rules : ReconnectRules Policy)
    (delays : LifecycleDelays) (credentials : HostCredentials) :
    HostProcess Policy ε → HostProcessAction ε → HostProcess Policy ε → Prop
  | connections {p a h} : p.result = none → HostStep rules delays credentials p.host a h →
      HostProcessStep rules delays credentials p (.connections a) { p with host := h }
  | health {p a s} : (p.result = none ∨ a.ofTask = true) →
      HealthStep p.host.ready p.health a s →
      HostProcessStep rules delays credentials p (.health a)
        { p with health := s, answers := p.answers ++ p.answer a }
  | connectionsReturned {p result} : p.result = none →
      p.host.lifecycle.phase = .returned result →
      HostProcessStep rules delays credentials p .returned
        { p with result := some (hostResult result) }
  | healthReturned {p} (reason : String) : p.result = none → p.health.returned = true →
      HostProcessStep rules delays credentials p .returned
        { p with result := some (.error (.healthServe reason)) }

def hostProcessSystem {Policy : Type} (ε : Type) (rules : ReconnectRules Policy)
    (delays : LifecycleDelays) (credentials : HostCredentials) :
    System (HostProcess Policy ε) (HostProcessAction ε) where
  Initial p := (hostSystem rules delays credentials).Initial p.host ∧ p.health = .start ∧
    p.answers = [] ∧ p.result = none
  Step := HostProcessStep rules delays credentials

/-- The last event says that the session serves. -/
def announcesReady (events : List LifecycleEvent) : Bool :=
  match events.getLast? with
  | some (.ready _) => true
  | _ => false

variable {Policy ε : Type} {rules : ReconnectRules Policy} {delays : LifecycleDelays}
  {credentials : HostCredentials} {p p' : HostProcess Policy ε} {a : HostProcessAction ε}
  {h h' : HostRun Policy} {s s' : LifecycleRun Policy}

/-- A host goes on as its lifecycle does, or leaves it where it is. -/
theorem hostStep_lifecycle {action : HostAction} (hs : HostStep rules delays credentials h action h') :
    (lifecycleSystem rules delays).Run h.lifecycle h'.lifecycle := by
  cases hs with
  | begin hl => exact .single hl
  | connectPolled hc =>
    unfold HostRun.connectPolled
    cases h.issuedDeviceToken <;> exact .refl _
  | deviceTokenRejected => exact .refl _
  | attemptConnected session hc ha hl => exact .single hl
  | attemptFailed error hc hp hl => exact .single hl
  | driver ha hl => exact .single hl

/-- The lifecycle of a host is a lifecycle of its own. -/
theorem host_lifecycle_reachable (hr : (hostSystem rules delays credentials).Reachable h) :
    (lifecycleSystem rules delays).Reachable h.lifecycle := by
  refine hr.invariant (P := fun h => (lifecycleSystem rules delays).Reachable h.lifecycle) ?_ ?_
  · exact fun h hi => .initial hi.1
  · exact fun h a h' hs hl => hl.run (hostStep_lifecycle hs)

/-- Events are only ever added. -/
theorem events_grow {action : LifecycleAction} (hs : LifecycleStep rules delays s action s') :
    s.events <+: s'.events := by
  have hfailure : ∀ (s : LifecycleRun Policy) (error : ClientError),
      s.events <+: (s.handleClientFailure rules delays error).events := by
    intro s error
    unfold LifecycleRun.handleClientFailure
    dsimp only
    split <;> simp [LifecycleRun.backoff, LifecycleRun.emit, LifecycleRun.finish]
  have hwon : ∀ polled : Bool, (s.won polled).events = s.events := by
    intro polled
    cases polled <;> rfl
  cases hs with
  | begin | connectShutdown | runShutdown | drained | backoffShutdown =>
    exact List.prefix_append _ _
  | pending => exact List.prefix_rfl
  | connected polled session =>
    rw [← hwon polled]
    simp [LifecycleRun.onConnected, LifecycleRun.emit]
  | connectFailed polled error =>
    rw [← hwon polled]
    exact hfailure _ _
  | runtime polled result =>
    rw [← hwon polled]
    cases result with
    | client error => exact hfailure _ _
    | deliverySaturated | resultTask =>
      simp [LifecycleRun.onRuntimeResult, LifecycleRun.handleRuntimeFailure, LifecycleRun.backoff,
        LifecycleRun.emit]
    | ended => exact List.prefix_append _ _
  | delayElapsed polled =>
    rw [← hwon polled]

/-- Readiness is what the last event says. -/
theorem ready_eq_announcesReady (hr : (hostSystem rules delays credentials).Reachable h) :
    h.ready = announcesReady h.lifecycle.events := by
  have hready := (traced_reachable (host_lifecycle_reachable hr)).trail.ready
  unfold HostRun.ready announcesReady
  rw [Bool.eq_iff_iff, hready]
  constructor
  · rintro ⟨k, hk⟩
    rw [hk]
  · intro hlast
    split at hlast
    · next k hk => exact ⟨k, hk⟩
    · cases hlast

/-- What the result of a host says of its parts. -/
def HostProcess.Explains (p : HostProcess Policy ε) : Except HostError Unit → Prop
  | .ok () => ∃ k drained, p.host.lifecycle.events.getLast? = some (.stopped k drained)
  | .error error => (∃ k pause, error = .reconnectPaused (pauseName pause) ∧
      p.host.lifecycle.events.getLast? = some (.paused k pause)) ∨
    (∃ reason, error = .healthServe reason ∧ 3 ≤ trailingFailures p.health.accepts)

structure HostProcess.Accounted (rules : ReconnectRules Policy) (delays : LifecycleDelays)
    (credentials : HostCredentials) (p : HostProcess Policy ε) : Prop where
  host : (hostSystem rules delays credentials).Reachable p.host
  health : (healthSystem ε).Reachable p.health
  answers : ∀ answer ∈ p.answers, answer.events <+: p.host.lifecycle.events ∧
    answer.answer = serveHealthRequest (announcesReady answer.events) answer.pieces
  result : ∀ result, p.result = some result → p.Explains result

/-- A task accepts nothing. -/
theorem task_step_accepts {ready : Bool} {action : HealthAction ε} {s s' : HealthServer}
    (ht : action.ofTask = true) (hs : HealthStep ready s action s') : s'.accepts = s.accepts := by
  cases hs with
  | accepted | acceptFailed | retried | joined => cases ht
  | read | written | panicked | aborted => rfl

theorem hostProcess_step (hs : HostProcessStep rules delays credentials p a p')
    (h : p.Accounted rules delays credentials) : p'.Accounted rules delays credentials := by
  cases hs with
  | @connections a h' hnone hs =>
    have hevents : p.host.lifecycle.events <+: h'.lifecycle.events :=
      (hostStep_lifecycle hs).relates (R := fun s s' => s.events <+: s'.events)
        (fun _ => List.prefix_rfl) (fun _ _ _ => List.IsPrefix.trans) fun _ _ _ => events_grow
    refine ⟨h.host.step hs, h.health, ?_, fun result hresult => ?_⟩
    · intro answer hanswer
      obtain ⟨hgrown, heq⟩ := h.answers answer hanswer
      exact ⟨hgrown.trans hevents, heq⟩
    · rw [hnone] at hresult
      cases hresult
  | @health a s hopen hs =>
    refine ⟨h.host, healthSystem_step _ h.health hs, ?_, fun result hresult => ?_⟩
    · intro answer hanswer
      rcases List.mem_append.mp hanswer with hanswer | hanswer
      · exact h.answers answer hanswer
      · cases a with
        | read n pieces =>
          rw [List.mem_singleton.mp hanswer, ← ready_eq_announcesReady h.host]
          exact ⟨List.prefix_rfl, rfl⟩
        | accepted | acceptFailed | retried | written | panicked | joined | aborted =>
          cases hanswer
    · have hexplains := h.result result hresult
      cases result with
      | ok => exact hexplains
      | error error =>
        rcases hexplains with hpaused | ⟨reason, herror, hfailures⟩
        · exact Or.inl hpaused
        · refine Or.inr ⟨reason, herror, ?_⟩
          rcases hopen with hnone | ht
          · rw [hnone] at hresult
            cases hresult
          · rw [task_step_accepts ht hs]
            exact hfailures
  | @connectionsReturned result hnone hphase =>
    refine ⟨h.host, h.health, h.answers, fun result' hresult => ?_⟩
    obtain rfl := Option.some.inj hresult
    have hlast := (traced_reachable (host_lifecycle_reachable h.host)).last
    rw [hphase] at hlast
    rcases result with ⟨⟨pause⟩⟩ | ⟨⟨⟩⟩
    · exact Or.inl ⟨_, pause, rfl, hlast⟩
    · exact ⟨_, hlast⟩
  | healthReturned reason hnone hreturned =>
    refine ⟨h.host, h.health, h.answers, fun result hresult => ?_⟩
    obtain rfl := Option.some.inj hresult
    exact Or.inr ⟨reason, rfl, (health_reachable h.health).returned.mp hreturned⟩

theorem hostProcess_reachable
    (hr : (hostProcessSystem ε rules delays credentials).Reachable p) :
    p.Accounted rules delays credentials := by
  refine hr.invariant (P := HostProcess.Accounted rules delays credentials) ?_
    fun p a p' => hostProcess_step
  rintro p ⟨hhost, hhealth, hanswers, hresult⟩
  refine ⟨.initial hhost, .initial hhealth, ?_, ?_⟩
  · rw [hanswers]
    exact fun answer hanswer => absurd hanswer List.not_mem_nil
  · rw [hresult]
    exact fun result h => by cases h

/-- Whatever the order of its steps, a host answers every health request by whether the session
served at that moment; it returns only when its lifecycle stopped or paused, as which it reports it,
or when three accepts in a row have failed; and once it has returned it connects no more. -/
theorem host_process_reports_truthfully {Policy : Type} (ε : Type) (rules : ReconnectRules Policy)
    (delays : LifecycleDelays) (credentials : HostCredentials) (p : HostProcess Policy ε)
    (hr : (hostProcessSystem ε rules delays credentials).Reachable p) :
    (∀ answer ∈ p.answers, answer.events <+: p.host.lifecycle.events ∧
      answer.answer = serveHealthRequest (announcesReady answer.events) answer.pieces) ∧
    (p.result = some (.ok ()) →
      ∃ k drained, p.host.lifecycle.events.getLast? = some (.stopped k drained)) ∧
    (∀ error, p.result = some (.error error) →
      (∃ k pause, error = .reconnectPaused (pauseName pause) ∧
        p.host.lifecycle.events.getLast? = some (.paused k pause)) ∨
      (∃ reason, error = .healthServe reason ∧ 3 ≤ trailingFailures p.health.accepts)) ∧
    (p.result ≠ none → ∀ a p', HostProcessStep rules delays credentials p a p' →
      p'.host = p.host ∧ p'.result = p.result ∧ p'.health.accepts = p.health.accepts) := by
  have h := hostProcess_reachable hr
  refine ⟨h.answers, h.result _, fun error => h.result _, ?_⟩
  intro hresult a p' hs
  cases hs with
  | connections hnone | connectionsReturned hnone | healthReturned _ hnone =>
    exact absurd hnone hresult
  | health hopen hs =>
    rcases hopen with hnone | ht
    · exact absurd hnone hresult
    · exact ⟨rfl, rfl, task_step_accepts ht hs⟩

def readyzRequest : List (Except String Bytes) := [.ok (Text.utf8 "GET /readyz HTTP/1.1\r\n")]

/-- A host that is probed before and while its session serves, and then shut down. -/
theorem probed_host : ∃ p : HostProcess Unit String,
    (hostProcessSystem String ⟨id, fun _ _ => (.keepSession, ())⟩ ⟨1, 1⟩
      storedCredentials).Reachable p ∧
    p.answers.map (fun answer => answer.answer.map (·.status)) =
      [.ok "503 Service Unavailable", .ok "200 OK"] ∧
    p.result = some (.ok ()) ∧
    ∃ k drained, p.host.lifecycle.events.getLast? = some (.stopped k drained) := by
  have h₀ : (hostProcessSystem String ⟨id, fun _ _ => (.keepSession, ())⟩ ⟨1, 1⟩
      storedCredentials).Reachable
      ⟨⟨⟨(), 0, .starting, [], [], [], false, []⟩, some "adopted-device-token", none, []⟩, .start,
        [], none⟩ := .initial ⟨⟨⟨(), rfl⟩, rfl, rfl, rfl⟩, rfl, rfl, rfl⟩
  have h₁ := h₀.step (.connections rfl (.begin (.begin rfl)))
  have h₂ := h₁.step (.connections rfl (.connectPolled rfl))
  have h₃ := h₂.step (.health (Or.inl rfl) (.accepted rfl rfl))
  have h₄ := h₃.step (.health (Or.inl rfl) (@HealthStep.read _ _ _ 0 [] [] readyzRequest rfl))
  have h₅ := h₄.step (.connections rfl (.attemptConnected ⟨some 4, none, none⟩ rfl trivial
    (.connected false _ rfl)))
  have h₆ := h₅.step (.health (Or.inl rfl) (.accepted rfl rfl))
  have h₇ := h₆.step (.health (Or.inl rfl)
    (@HealthStep.read _ _ _ 1 [(0, _)] [] readyzRequest rfl))
  have h₈ := h₇.step (.connections rfl (.driver rfl (.runShutdown rfl)))
  have h₉ := h₈.step (.connections rfl (.driver rfl (.drained true rfl)))
  have h₁₀ := h₉.step (.connectionsReturned rfl rfl)
  obtain ⟨-, hstopped, -⟩ := host_process_reports_truthfully _ _ _ _ _ h₁₀
  exact ⟨_, h₁₀, by decide +kernel, rfl, hstopped rfl⟩

/-- A host does not fail to build its runtime. -/
theorem startHost_error {H P : Type} {config : HostConfig} {bind : Except String Unit} {status : H}
    {error : HostError} (h : startHost (P := P) config bind status = .error error) :
    config.validate = .error error ∨ ∃ reason, error = .healthBind reason := by
  unfold startHost at h
  rcases Except.bind_eq_error.mp h with h | ⟨⟨⟩, hvalid, h⟩
  · exact Or.inl h
  · rcases Except.bind_eq_error.mp h with h | ⟨⟨⟩, -, h⟩
    · obtain ⟨reason, -, rfl⟩ := Except.mapError_eq_error.mp h
      exact Or.inr ⟨reason, rfl⟩
    · obtain ⟨runtime, hbuild, -⟩ := HostConfig.buildRuntime_of_valid (P := P) status hvalid
      rw [hbuild] at h
      cases h

end OpenclawNode.Node
