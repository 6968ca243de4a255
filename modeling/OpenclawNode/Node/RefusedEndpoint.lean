import OpenclawNode.Node.GatewayEndpoint

/-! What every run of a lifecycle comes to whose transport is refused. -/
namespace OpenclawNode.Node

open Transition (System)

/-- A connect answers as its transport does: a refused one never connects, and fails for that. -/
def LifecycleAction.Answers (opened : Except EndpointError TlsTrust) : LifecycleAction → Prop
  | .connected _ => ∃ trust, opened = .ok trust
  | .connectFailed error => ∀ refusal, opened = .error refusal → error = mapEndpointError refusal
  | _ => True

/-- The lifecycle of a node whose connects all go to one endpoint. -/
def endpointSystem (opened : Except EndpointError TlsTrust) (delays : LifecycleDelays)
    (policy : ReconnectPolicy) : System (LifecycleRun ReconnectPolicy) LifecycleAction where
  Initial s := s = ⟨policy, 0, .starting, [], [], [], false, []⟩
  Step s a s' := LifecycleStep reconnectRules delays s a s' ∧ a.Answers opened

/-- Where a run stands whose transport is refused: it has connected once at most, and has either
stopped in that or paused over it. -/
inductive LifecycleRun.Refused (policy : ReconnectPolicy) : LifecycleRun ReconnectPolicy → Prop
  | starting {ended polls} : Refused policy ⟨policy, 0, .starting, [], [], [], ended, polls⟩
  | connecting {ended polls} :
      Refused policy ⟨policy, 1, .connecting, [.connecting 1], [], [1], ended, polls⟩
  | stopped {ended polls} : Refused policy ⟨policy, 1, .returned (.ok ()),
      [.connecting 1, .stopped 1 true], [], [1], ended, polls⟩
  | paused {ended polls} : Refused policy ⟨policy, 1, .returned (.error (.paused .configuration)),
      [.connecting 1, .disconnected 1 (.client .configuration), .paused 1 .configuration],
      [], [1], ended, polls⟩

variable {library : UrlLibrary} {gatewayUrl : String} {tlsTrust : TlsTrust}
  {headers : List (String × String)} {error : EndpointError} {delays : LifecycleDelays}
  {policy : ReconnectPolicy} {s s' : LifecycleRun ReconnectPolicy} {a : LifecycleAction}

theorem class_of_refusal (h : classifyPause (mapEndpointError error) = some .configuration) :
    ClientErrorClass.of (mapEndpointError error) = .configuration := by
  cases error with
  | tls reason =>
    rw [mapEndpointError, classifyPause] at h
    rw [mapEndpointError, ClientErrorClass.of]
    split at h
    · next hreason => exact if_pos hreason
    · cases h
  | invalidUrl reason => rfl
  | invalidHeader reason => rfl
  | insecureRemoteGateway => rfl

/-- The connect of a refused transport pauses. -/
theorem refused_connect {ended : Bool} {polls : List Bool}
    (hrefused : openTransport library gatewayUrl tlsTrust headers = .error error) :
    LifecycleRun.handleClientFailure reconnectRules delays
      ⟨policy, 1, .connecting, [.connecting 1], [], [1], ended, polls⟩ (mapEndpointError error) =
      ⟨policy, 1, .returned (.error (.paused .configuration)),
        [.connecting 1, .disconnected 1 (.client .configuration), .paused 1 .configuration],
        [], [1], ended, polls⟩ := by
  have hpause : reconnectRules.afterFailure policy (mapEndpointError error) =
      (.pause .configuration, policy) := afterFailure_openTransport policy .unavailable hrefused
  have hclass := class_of_refusal (openTransport_error hrefused)
  unfold LifecycleRun.handleClientFailure
  simp only [LifecycleRun.emit, hpause, hclass]
  rfl

theorem refused_step (hrefused : openTransport library gatewayUrl tlsTrust headers = .error error)
    (hs : (endpointSystem (openTransport library gatewayUrl tlsTrust headers) delays policy).Step
      s a s') (h : s.Refused policy) : s'.Refused policy := by
  obtain ⟨hstep, hanswers⟩ := hs
  cases h with
  | starting =>
    cases hstep with
    | begin hp => exact .connecting
    | pending hp => exact hp.elim
    | connectShutdown hp => cases hp
    | connected polled session hp => cases hp
    | connectFailed polled error hp => cases hp
    | runShutdown hp => cases hp
    | runtime polled result hp => cases hp
    | drained inTime hp => cases hp
    | backoffShutdown hp => cases hp
    | delayElapsed polled hp => cases hp
  | connecting =>
    cases hstep with
    | begin hp => cases hp
    | pending hp => exact .connecting
    | connectShutdown hp => exact .stopped
    | connected polled session hp =>
      obtain ⟨trust, hopened⟩ := hanswers
      rw [hrefused] at hopened
      cases hopened
    | connectFailed polled failure hp =>
      rw [hanswers _ hrefused]
      cases polled <;> exact refused_connect hrefused ▸ .paused
    | runShutdown hp => cases hp
    | runtime polled result hp => cases hp
    | drained inTime hp => cases hp
    | backoffShutdown hp => cases hp
    | delayElapsed polled hp => cases hp
  | stopped => cases hstep <;> simp_all [LifecyclePhase.polls]
  | paused => cases hstep <;> simp_all [LifecyclePhase.polls]

theorem refused_reachable
    (hrefused : openTransport library gatewayUrl tlsTrust headers = .error error)
    (hs : (endpointSystem (openTransport library gatewayUrl tlsTrust headers) delays
      policy).Reachable s) : s.Refused policy := by
  refine hs.invariant (P := LifecycleRun.Refused policy) ?_ fun s a s' => refused_step hrefused
  rintro s rfl
  exact .starting

/-- Whatever else happens, a node whose transport is refused connects once at most, is never
ready, never waits to try again and leaves its policy as it was. It returns from that connect,
paused over its configuration unless it was shut down first. -/
theorem refused_endpoint_runs (library : UrlLibrary) (gatewayUrl : String) (tlsTrust : TlsTrust)
    (headers : List (String × String)) (error : EndpointError) (delays : LifecycleDelays)
    (policy : ReconnectPolicy) (s : LifecycleRun ReconnectPolicy)
    (hrefused : openTransport library gatewayUrl tlsTrust headers = .error error)
    (hs : (endpointSystem (openTransport library gatewayUrl tlsTrust headers) delays
      policy).Reachable s) :
    s.connects.length ≤ 1 ∧ s.events.foldl hostReady false = false ∧
      (∀ delay, s.phase ≠ .backingOff delay) ∧ s.reconnect = policy ∧
      (s.phase = .connecting → ∀ failure s',
        LifecycleStep reconnectRules delays s (.connectFailed failure) s' →
        failure = mapEndpointError error →
        s'.phase = .returned (.error (.paused .configuration))) ∧
      ∀ result, s.phase = .returned result →
        (result = .ok () ∧ s.events = [.connecting 1, .stopped 1 true]) ∨
        (result = .error (.paused .configuration) ∧ s.events = [.connecting 1,
          .disconnected 1 (.client .configuration), .paused 1 .configuration]) := by
  have h := refused_reachable hrefused hs
  refine ⟨?_, ?_, fun delay => ?_, ?_, fun hconnecting failure s' hstep hfailure => ?_,
    fun result hreturned => ?_⟩
  · cases h <;> simp
  · cases h <;> rfl
  · cases h <;> exact fun hp => by cases hp
  · cases h <;> rfl
  · subst hfailure
    cases h with
    | connecting =>
      cases hstep with
      | connectFailed polled error hp =>
        cases polled <;> exact congrArg LifecycleRun.phase (refused_connect hrefused)
    | _ => cases hconnecting
  · cases h with
    | stopped =>
      cases hreturned
      exact .inl ⟨rfl, rfl⟩
    | paused =>
      cases hreturned
      exact .inr ⟨rfl, rfl⟩
    | _ => cases hreturned

/-- A node at a public address, in plaintext. -/
theorem public_endpoint_runs : ∃ s : LifecycleRun ReconnectPolicy,
    (endpointSystem (openTransport publicLibrary "ws://[::ffff:8.8.8.8]" .systemRoots []) ⟨1, 1⟩
      defaultPolicy).Reachable s ∧
    s.phase = .returned (.error (.paused .configuration)) ∧
    s.connects.length ≤ 1 ∧ s.events.foldl hostReady false = false := by
  have hrefused : openTransport publicLibrary "ws://[::ffff:8.8.8.8]" .systemRoots [] =
      .error .insecureRemoteGateway := by decide
  have h₀ : (endpointSystem (openTransport publicLibrary "ws://[::ffff:8.8.8.8]" .systemRoots [])
      ⟨1, 1⟩ defaultPolicy).Reachable
      ⟨defaultPolicy, 0, .starting, [], [], [], false, []⟩ := .initial rfl
  have h₁ := h₀.step ⟨.begin rfl, trivial⟩
  have hanswers : LifecycleAction.Answers
      (openTransport publicLibrary "ws://[::ffff:8.8.8.8]" .systemRoots [])
      (.connectFailed .insecureRemoteGateway) := by
    intro refusal h
    rw [hrefused] at h
    cases h
    rfl
  have h₂ := h₁.step ⟨.connectFailed false .insecureRemoteGateway rfl, hanswers⟩
  obtain ⟨hconnects, hready, -⟩ := refused_endpoint_runs _ _ _ _ _ _ _ _ hrefused h₂
  exact ⟨_, h₂, rfl, hconnects, hready⟩

end OpenclawNode.Node
