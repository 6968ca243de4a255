import OpenclawNode.Sidecar.BuiltRuntime
import OpenclawNode.Sidecar.NativeWork
import OpenclawNode.Sidecar.StatusBudget

/-! A retired channel stops the native work of its bridge. -/
namespace OpenclawNode.Sidecar

open BoundedWriter (Codec)
open Future (AsyncFn Polled)
open Node (AdmissionPoll CommandRuntime EntryPoll EvaluationEvent EvaluationPhase EvaluationPoll
  EvaluationRun EvaluationStep ExecutePoll HandlerError InvocationResult NodeInvocation Nanos
  RegisteredHandler evaluationSystem handlerFailure invocationResultParams
  serializedJsonWithinLimit_iff)

/-- The result of an invocation whose channel is retired. -/
def retiredResult : InvocationResult := .failure channelRetired.code channelRetired.message

section

variable {β α : Type} {native : AsyncFn SidecarWorld SidecarInvocation β Empty}
  {call : SidecarInvocation → NativeCall} {withinLimit : NodeInvocation → Bool}
  {conclude : NodeInvocation → β → Except HandlerError α} {invocation : NodeInvocation}
  {w w' : SidecarWorld} {outcome : Polled (Except HandlerError α)} {notes : List NativeCall}

theorem SelectPoll.retires {future : native.State} {future' : SidecarFuture native.State}
    (h : SelectPoll native conclude invocation future w outcome future' w')
    (hw : w.beyond = true) : outcome = .ready (.error channelRetired) ∧ w' = w.cancel := by
  cases h with
  | retired _ => exact ⟨rfl, rfl⟩
  | pending hlive _ | panicked hlive _ | ready _ hlive _ =>
    rw [hw] at hlive
    cases hlive

/-- A future of the bridge that is polled after the retirement returns without native work. -/
theorem SidecarPoll.retires {future future' : SidecarFuture native.State}
    (h : SidecarPoll native call withinLimit conclude future w notes outcome future' w')
    (hw : w.beyond = true) :
    notes = [] ∧ outcome = .ready (.error channelRetired) ∧ w' = w.cancel := by
  cases h with
  | retired _ => exact ⟨rfl, rfl, rfl⟩
  | nonportable hlive _ | tooLarge hlive _ _ | panicked hlive _ _ _ | called hlive _ _ _ _ =>
    rw [hw] at hlive
    cases hlive
  | waiting hs =>
    obtain ⟨ho, hw'⟩ := hs.retires hw
    exact ⟨rfl, ho, hw'⟩

end

theorem failureBytes_channelRetired : failureBytes channelRetired ≤ minimumBridgeFailureBytes := by
  simp only [minimumBridgeFailureBytes, List.map_cons, List.map_nil, List.foldl_cons,
    List.foldl_nil]
  exact le_max_right _ _

/-- The bridge's own failure is kept by every output limit that a configuration may set. -/
theorem handlerFailure_channelRetired {maxOutputBytes : Nat}
    (h : minimumBridgeFailureBytes ≤ maxOutputBytes) (fallbackCode fallbackMessage : String) :
    handlerFailure channelRetired fallbackCode fallbackMessage maxOutputBytes = retiredResult := by
  have hfits : Node.serializedJsonWithinLimit (Json.object
      [("code", Json.string channelRetired.code),
        ("message", Json.string channelRetired.message)]) maxOutputBytes = true := by
    rw [serializedJsonWithinLimit_iff]
    exact ⟨by simp [Json.failed_object], failureBytes_channelRetired.trans h⟩
  have hcode : channelRetired.code ≠ "" := by decide
  have hmessage : channelRetired.message ≠ "" := by decide
  simp only [handlerFailure, if_neg hcode, if_neg hmessage, hfits, if_true, retiredResult]

theorem invocationResultParams_retired (invocation : NodeInvocation) :
    invocationResultParams invocation retiredResult = .ok (.object [
      ("error", .object [("code", .string "SIDECAR_CHANNEL_RETIRED"),
        ("message", .string "authenticated sidecar channel is no longer live")]),
      ("id", .string invocation.id), ("nodeId", .string invocation.nodeId),
      ("ok", .bool false)]) := rfl

variable {formatDouble : Json.Double → String} {adapter : SidecarCapabilityAdapter}
  {runtime : SidecarCommandRuntime} {invocation : NodeInvocation} {advertised : Finset String}
  {registration : RegisteredHandler SidecarBinding} {policy : SidecarBinding} {start : Nanos}
  {timeout expires : Option Nanos} {w w' : SidecarWorld}
  {events : List (EvaluationEvent SidecarBinding SidecarBinding Bool)} {notes : List NativeCall}
  {phase phase' : EvaluationPhase (sidecarClosures formatDouble adapter)}

theorem execute_silent {future : ((sidecarClosures formatDouble adapter).handler
      registration.handler).State}
    (h : ExecutePoll (sidecarClosures formatDouble adapter) runtime formatDouble registration future
      expires w notes phase w') (hw : w.beyond = true) : notes = [] := by
  cases h with
  | overflow _ _ => rfl
  | pending _ _ hp _ | result _ _ _ hp _ => exact (SidecarPoll.retires hp hw).1

/-- A handler that is polled after the retirement ends its invocation. -/
theorem execute_retires {future : ((sidecarClosures formatDouble adapter).handler
      registration.handler).State}
    (h : ExecutePoll (sidecarClosures formatDouble adapter) runtime formatDouble registration future
      expires w notes phase w') (hw : w.beyond = true) (hd : registration.duplex = false)
    (hmax : minimumBridgeFailureBytes ≤ runtime.maxOutputBytes) :
    phase = .done retiredResult ∧ w' = w.cancel := by
  have hanswered : ∀ result, EvaluationPhase.answered (sidecarClosures formatDouble adapter)
      registration result = .done result := fun result => if_neg (by rw [hd]; simp)
  cases h with
  | overflow hduplex _ =>
    rw [hd] at hduplex
    cases hduplex
  | pending outcome _ hp ho =>
    obtain ⟨-, rfl, -⟩ := SidecarPoll.retires hp hw
    cases ho
  | result outcome result _ hp ho =>
    obtain ⟨-, rfl, rfl⟩ := SidecarPoll.retires hp hw
    rw [Node.handlerOutcome, handlerFailure_channelRetired hmax] at ho
    cases ho
    exact ⟨hanswered _, rfl⟩

/-- An admission that is polled after the retirement refuses its invocation, unless that was
cancelled before. -/
theorem admission_retires {future : ((sidecarClosures formatDouble adapter).admission policy).State}
    (h : AdmissionPoll (sidecarClosures formatDouble adapter) runtime formatDouble invocation
      registration policy future start timeout expires w events notes phase w')
    (hw : w.beyond = true) (hmax : minimumBridgeFailureBytes ≤ runtime.maxOutputBytes) :
    notes = [] ∧ w' = w.cancel ∧ (w.cancelled = false → phase = .done retiredResult) := by
  cases h with
  | cancelled hc =>
    refine ⟨rfl, rfl, ?_⟩
    intro hf
    rw [hc] at hf
    cases hf
  | pending outcome _ hp ho =>
    obtain ⟨-, rfl, -⟩ := SidecarPoll.retires hp hw
    cases ho
  | refused outcome result _ hp ho =>
    obtain ⟨hnotes, rfl, rfl⟩ := SidecarPoll.retires hp hw
    rw [Node.admissionOutcome, handlerFailure_channelRetired hmax] at ho
    cases ho
    exact ⟨hnotes, rfl, fun _ => rfl⟩
  | admitted outcome _ hp ho _ =>
    obtain ⟨-, rfl, -⟩ := SidecarPoll.retires hp hw
    cases ho

/-- The entry of a handler after the retirement does no native work. -/
theorem entry_silent
    (h : EntryPoll (sidecarClosures formatDouble adapter) runtime formatDouble invocation
      registration timeout w events notes phase w') (hw : w.beyond = true) : notes = [] := by
  cases h with
  | overflow _ | rejected _ _ _ => rfl
  | panicked _ _ hc => exact hc.1
  | called _ hn hc hx =>
    obtain ⟨rfl, -, -⟩ := Node.handlerEntryRejection_eq_none hn
    obtain ⟨hnotes, -, rfl⟩ := hc
    rw [hnotes, execute_silent hx hw]
    rfl

/-- A poll after the retirement does no native work. -/
theorem evaluation_silent
    (h : EvaluationPoll (sidecarClosures formatDouble adapter) runtime formatDouble advertised
      invocation phase w events notes phase' w') (hw : w.beyond = true)
    (hmax : minimumBridgeFailureBytes ≤ runtime.maxOutputBytes) : notes = [] := by
  cases h with
  | unresolved _ _ | tooLarge _ _ | elapsed _ _ _ | stopped _ => rfl
  | unguarded _ _ _ _ hentry => exact entry_silent hentry hw
  | policyPanicked _ _ _ _ hc => exact hc.1
  | guarded _ _ _ _ hc hadmission =>
    obtain ⟨hnotes, -, rfl⟩ := hc
    rw [hnotes, (admission_retires hadmission hw hmax).1]
    rfl
  | admitting hadmission => exact (admission_retires hadmission hw hmax).1
  | executing hx => exact execute_silent hx hw

section

variable {mac : Mac} {hc : Codec SidecarHandshakeMessage} {rc : Codec SidecarRuntimeMessage}
  {ch ch' : AuthenticatedSidecarChannel} {p p' : SidecarProcess}

/-- A call that leaves a configuration with the exchange leaves a valid one. -/
theorem exchange_call_valid {e e' : SidecarConfigurationExchange}
    {a : SidecarConfigurationExchange.Call} {result : Except SidecarConfigurationError Unit}
    (hres : e.call mac rc a ch = (result, e', ch')) :
    e'.selection = e.selection ∧ ∀ c, e'.configuration = some c → e.configuration = some c ∨
      validateConfiguration c e.selection = .ok () := by
  have hrefused : ∀ {α : Type} {r : Except SidecarConfigurationError α ×
      SidecarConfigurationExchange × AuthenticatedSidecarChannel},
      SidecarConfigurationExchange.Refused e ch r → ended r = (result, e', ch') →
      e'.selection = e.selection ∧
        ∀ c, e'.configuration = some c → e.configuration = some c := by
    intro α r hr he
    have he' : r.2.1 = e' := congrArg (fun r => r.2.1) he
    subst he'
    cases hr with
    | mismatch _ => exact ⟨rfl, fun c hc => hc⟩
    | failed _ _ _ => exact ⟨rfl, fun c hc => nomatch hc⟩
  have hvalid : ∀ {c : SidecarRuntimeConfiguration} {ch : AuthenticatedSidecarChannel},
      e.validate rc c ch = .ok () → validateConfiguration c e.selection = .ok () := by
    intro c ch hv
    rw [SidecarConfigurationExchange.validate, Except.bind_eq_ok] at hv
    exact hv.choose_spec.1
  cases a with
  | start c =>
    rcases e.start_cases mac rc ch c with hr | ⟨_, _, _, _, hv, frame, sealed, _, hok⟩
    · exact (hrefused hr hres).imp_right fun hkeep c hc => Or.inl (hkeep c hc)
    · rw [SidecarConfigurationExchange.call, hok] at hres
      cases hres
      refine ⟨rfl, ?_⟩
      intro c' hc'
      cases hc'
      exact Or.inr (hvalid hv)
  | receive frame =>
    rcases e.receive_cases mac rc ch frame with
      hr | ⟨_, _, _, payload, message, received, e₁, _, _, hm, hok⟩
    · exact (hrefused hr hres).imp_right fun hkeep c hc => Or.inl (hkeep c hc)
    · rw [SidecarConfigurationExchange.call, hok] at hres
      cases hres
      rcases SidecarConfigurationExchange.receiveMessage_eq_ok hm with
        ⟨_, _, c, _, hv, _, rfl⟩ | ⟨_, _, _, _, _, _, rfl⟩
      · refine ⟨rfl, ?_⟩
        intro c' hc'
        cases hc'
        exact Or.inr (hvalid hv)
      · exact ⟨rfl, fun c hc => Or.inl hc⟩
  | acknowledge manifest =>
    rcases e.acknowledge_cases mac rc ch manifest with hr | ⟨_, _, _, _, _, frame, sealed, _, hok⟩
    · exact (hrefused hr hres).imp_right fun hkeep c hc => Or.inl (hkeep c hc)
    · rw [SidecarConfigurationExchange.call, hok] at hres
      cases hres
      exact ⟨rfl, fun c hc => Or.inl hc⟩
  | completeAcknowledgement =>
    rcases e.completeAcknowledgement_cases ch with hr | ⟨_, _, _, _, hok⟩
    · exact (hrefused hr hres).imp_right fun hkeep c hc => Or.inl (hkeep c hc)
    · rw [SidecarConfigurationExchange.call, hok] at hres
      cases hres
      exact ⟨rfl, fun c hc => Or.inl hc⟩

/-- What a process keeps is validated, and its bridges enforce it on their channels. -/
structure SidecarProcess.Enforced (p : SidecarProcess) : Prop where
  exchanges : ∀ k e c, p.exchange k = some e → e.configuration = some c →
    validateConfiguration c e.selection = .ok ()
  bridges : ∀ i b, (i, b) ∈ p.bridges → ∃ c selection maxPayloadBytes,
    validateConfiguration c selection = .ok () ∧ Enforces b.runtime c ⟨maxPayloadBytes, i⟩

theorem activate_enforces {e e' : SidecarConfigurationExchange} {b : SidecarRuntimeBridge}
    (h : SidecarRuntimeBridge.activate e ch = (.ok b, e', ch'))
    (hv : ∀ c, e.configuration = some c → validateConfiguration c e.selection = .ok ()) :
    ∃ c maxPayloadBytes, validateConfiguration c e.selection = .ok () ∧
      Enforces b.runtime c ⟨maxPayloadBytes, ch.instanceId⟩ := by
  rcases SidecarRuntimeBridge.activate_cases e ch with
    ⟨_, ha⟩ | ⟨_, _, ha⟩ | ⟨_, _, _, ha⟩ | ⟨_, _, _, b', hok, ha⟩ <;> rw [h] at ha <;> cases ha
  obtain ⟨c, maxPayloadBytes, hc, -, -, -, hbuilt, -, -⟩ :=
    SidecarRuntimeBridge.activateConfigured_eq_ok hok
  obtain ⟨runtime, hruntime, henforces⟩ :=
    buildCommandRuntime_enforces (hv c hc) ⟨maxPayloadBytes, ch.instanceId⟩
  rw [hbuilt] at hruntime
  cases hruntime
  exact ⟨c, maxPayloadBytes, hv c hc, henforces⟩

theorem activate_configuration {e e' : SidecarConfigurationExchange}
    {result : Except SidecarRuntimeBridgeError SidecarRuntimeBridge}
    (h : SidecarRuntimeBridge.activate e ch = (result, e', ch')) :
    e'.selection = e.selection ∧ ∀ c, e'.configuration = some c → e.configuration = some c := by
  rcases SidecarRuntimeBridge.activate_cases e ch with
    ⟨_, ha⟩ | ⟨_, _, ha⟩ | ⟨_, _, _, ha⟩ | ⟨_, _, _, _, _, ha⟩ <;> rw [h] at ha <;> cases ha
  · exact ⟨rfl, fun c hc => hc⟩
  · exact ⟨rfl, fun c hc => nomatch hc⟩
  · exact ⟨rfl, fun c hc => hc⟩
  · exact ⟨rfl, fun c hc => hc⟩

/-- One exchange is replaced by one whose configuration is validated. -/
theorem enforced_update {exchange : Nat → Option SidecarConfigurationExchange}
    {e : SidecarConfigurationExchange} {k : Nat}
    (h : ∀ k e c, exchange k = some e → e.configuration = some c →
      validateConfiguration c e.selection = .ok ())
    (he : ∀ c, e.configuration = some c → validateConfiguration c e.selection = .ok ()) :
    ∀ j d c, Function.update exchange k (some e) j = some d → d.configuration = some c →
      validateConfiguration c d.selection = .ok () := by
  intro j d c hd hc
  by_cases hj : j = k
  · subst hj
    rw [Function.update_self] at hd
    cases hd
    exact he c hc
  · rw [Function.update_of_ne hj] at hd
    exact h j d c hd hc

theorem enforced_step {a : ProcessAction}
    (hn : ∀ i ch, p.channel i = some ch → ch.instanceId = i)
    (hs : ProcessStep mac hc rc p a p') (h : p.Enforced) : p'.Enforced := by
  cases hs with
  | createChannel _ _ => exact ⟨h.exchanges, h.bridges⟩
  | newHandshake _ _ => exact ⟨h.exchanges, h.bridges⟩
  | handshake _ _ _ => exact ⟨h.exchanges, h.bridges⟩
  | @newExchange k j d e _ _ hnew =>
    obtain ⟨_, _, _, _, _, rfl⟩ := SidecarConfigurationExchange.new_eq_ok hnew
    exact ⟨enforced_update h.exchanges (fun c hc => nomatch hc), h.bridges⟩
  | newExchangeFailed _ _ => exact ⟨h.exchanges, h.bridges⟩
  | @exchange k i a e ch result e' ch' he _ hres =>
    obtain ⟨hselection, hadds⟩ := exchange_call_valid hres
    refine ⟨enforced_update h.exchanges fun c hc => ?_, h.bridges⟩
    rw [hselection]
    rcases hadds c hc with hc' | hvalid
    · exact h.exchanges k e c he hc'
    · exact hvalid
  | @activate k i e ch result e' ch' he hch hres =>
    obtain ⟨hselection, hkeep⟩ := activate_configuration hres
    have hexchanges := enforced_update (k := k) h.exchanges fun c (hc : e'.configuration = some c) =>
      (congrArg (validateConfiguration c) hselection).trans (h.exchanges k e c he (hkeep c hc))
    cases result with
    | error error => exact ⟨hexchanges, h.bridges⟩
    | ok b =>
      refine ⟨hexchanges, ?_⟩
      intro j b' hm
      rcases List.mem_append.mp hm with hm | hm
      · exact h.bridges j b' hm
      · simp only [List.mem_singleton, Prod.mk.injEq] at hm
        obtain ⟨rfl, rfl⟩ := hm
        obtain ⟨c, maxPayloadBytes, hv, henforces⟩ :=
          activate_enforces hres fun c hc => h.exchanges k e c he hc
        rw [hn j ch hch] at henforces
        exact ⟨c, e.selection, maxPayloadBytes, hv, henforces⟩
  | use _ _ => exact ⟨h.exchanges, h.bridges⟩
  | @observe n i b event hget =>
    refine ⟨h.exchanges, ?_⟩
    intro j b' hm
    rcases List.mem_or_eq_of_mem_set hm with hm | hm
    · exact h.bridges j b' hm
    · cases hm
      exact h.bridges i b (List.mem_of_getElem? hget)

theorem enforced_reachable (hp : (processSystem mac hc rc).Reachable p) : p.Enforced := by
  refine hp.invariant_of_reachable ?_ fun _ _ _ hr hs h => enforced_step (process_named hr) hs h
  rintro _ rfl
  exact ⟨(fun _ _ _ he => nomatch he), fun _ _ hm => nomatch hm⟩

end

/-- What a poll after the retirement comes to: futures of the bridge return its own error and cancel
the invocation, and the runtime sends that error as the result. -/
structure Stops (formatDouble : Json.Double → String) (adapter : SidecarCapabilityAdapter)
    (runtime : SidecarCommandRuntime) (invocation : NodeInvocation) : Prop where
  admission : ∀ maxPayloadBytes future (w : SidecarWorld) notes outcome future' w',
    w.beyond = true → (evaluateSidecarAdmission formatDouble adapter maxPayloadBytes).Poll future w
      notes outcome future' w' →
    notes = [] ∧ outcome = .ready (.error channelRetired) ∧ w' = w.cancel
  handler : ∀ maxPayloadBytes future (w : SidecarWorld) notes outcome future' w',
    w.beyond = true → (evaluateSidecarInvocation formatDouble adapter maxPayloadBytes).Poll future w
      notes outcome future' w' →
    notes = [] ∧ outcome = .ready (.error channelRetired) ∧ w' = w.cancel
  refused : ∀ registration policy future started timeout expires (w : SidecarWorld) events notes
    phase w', w.beyond = true → AdmissionPoll (sidecarClosures formatDouble adapter) runtime
      formatDouble invocation registration policy future started timeout expires w events notes
      phase w' →
    w' = w.cancel ∧ (w.cancelled = false → phase = .done retiredResult)
  failed : ∀ registration future expires (w : SidecarWorld) notes phase w', w.beyond = true →
    runtime.handlers.lookup invocation.command = some registration →
    ExecutePoll (sidecarClosures formatDouble adapter) runtime formatDouble registration future
      expires w notes phase w' →
    phase = .done retiredResult ∧ w' = w.cancel
  silent : ∀ advertised phase (w : SidecarWorld) events notes phase' w', w.beyond = true →
    EvaluationPoll (sidecarClosures formatDouble adapter) runtime formatDouble advertised invocation
      phase w events notes phase' w' → notes = []

theorem Enforces.stops {c : SidecarRuntimeConfiguration} {selection : SidecarProtocolSelection}
    {binding : SidecarBinding} (h : Enforces runtime c binding)
    (hv : validateConfiguration c selection = .ok ()) :
    Stops formatDouble adapter runtime invocation := by
  have hmax : minimumBridgeFailureBytes ≤ runtime.maxOutputBytes := by
    rw [h.maxOutputBytes]
    exact (validateConfiguration_eq_ok hv).maxOutputBytes.2.1
  refine ⟨?_, ?_, ?_, ?_, ?_⟩
  · intro _ _ _ _ _ _ _ hw hp
    exact SidecarPoll.retires hp hw
  · intro _ _ _ _ _ _ _ hw hp
    exact SidecarPoll.retires hp hw
  · intro _ _ _ _ _ _ _ _ _ _ _ hw hp
    exact (admission_retires hp hw hmax).2
  · intro registration _ _ _ _ _ _ hw hl hp
    have hd : registration.duplex = false := by
      rw [h.handlers] at hl
      split at hl
      · cases hl
        rfl
      · cases hl
    exact execute_retires hp hw hd hmax
  · intro _ _ _ _ _ _ _ hw hp
    exact evaluation_silent hp hw hmax

/-- The evaluation awaits its admission or its handler, and was not cancelled during the former. -/
def Awaits (s : EvaluationRun (sidecarClosures formatDouble adapter)) : Prop :=
  match s.phase with
  | .admitting _ _ _ _ _ _ => s.world.cancelled = false
  | .executing _ _ _ => True
  | _ => False

theorem Stops.awaiting {active : Node.ActiveInvocations}
    {s s' : EvaluationRun (sidecarClosures formatDouble adapter)}
    (h : Stops formatDouble adapter runtime invocation)
    (hs : (evaluationSystem (sidecarClosures formatDouble adapter) runtime formatDouble advertised
      active invocation).Reachable s) (hw : s.world.beyond = true)
    (hp : EvaluationStep (sidecarClosures formatDouble adapter) runtime formatDouble advertised
      invocation s (.poll notes) s') (ha : Awaits s) :
    s'.phase = .done retiredResult ∧ s'.world.cancelled = true := by
  have hk := Node.keeps_reachable hs
  obtain ⟨phase, world, events⟩ := s
  cases hp with
  | poll hp =>
    cases hp with
    | admitting hadmission =>
      obtain ⟨hw', hdone⟩ := h.refused _ _ _ _ _ _ _ _ _ _ _ hw hadmission
      exact ⟨hdone ha, by rw [hw']; rfl⟩
    | executing hx =>
      obtain ⟨hdone, hw'⟩ := h.failed _ _ _ _ _ _ _ hw hk.1 hx
      exact ⟨hdone, by rw [hw']; rfl⟩
    | unresolved | tooLarge | elapsed | unguarded | policyPanicked | guarded | stopped =>
      exact ha.elim

/-- Retirement stops native work: whatever the adapter of an activated bridge does, no poll that
starts after the bridge's channel is retired calls it, an admission or a handler polled then returns
the bridge's own error and cancels its invocation, and the result that is sent carries that code and
message. -/
theorem retirement_stops_native_work (mac : Mac) (hc : Codec SidecarHandshakeMessage)
    (rc : Codec SidecarRuntimeMessage) (p : SidecarProcess)
    (hp : (processSystem mac hc rc).Reachable p) (i : UInt64) (b : SidecarRuntimeBridge)
    (hb : (i, b) ∈ p.bridges) (formatDouble : Json.Double → String)
    (adapter : SidecarCapabilityAdapter) (invocation : NodeInvocation) :
    Stops formatDouble adapter b.runtime invocation ∧
    (∀ advertised active s s' notes,
      (evaluationSystem (sidecarClosures formatDouble adapter) b.runtime formatDouble advertised
        active invocation).Reachable s → s.world.beyond = true →
      EvaluationStep (sidecarClosures formatDouble adapter) b.runtime formatDouble advertised
        invocation s (.poll notes) s' →
      notes = [] ∧ (Awaits s → s'.phase = .done retiredResult ∧ s'.world.cancelled = true)) ∧
    invocationResultParams invocation retiredResult = .ok (.object [
      ("error", .object [("code", .string "SIDECAR_CHANNEL_RETIRED"),
        ("message", .string "authenticated sidecar channel is no longer live")]),
      ("id", .string invocation.id), ("nodeId", .string invocation.nodeId),
      ("ok", .bool false)]) := by
  obtain ⟨c, selection, maxPayloadBytes, hv, henforces⟩ := (enforced_reachable hp).bridges i b hb
  have hstops : Stops formatDouble adapter b.runtime invocation := henforces.stops hv
  refine ⟨hstops, ?_, invocationResultParams_retired invocation⟩
  intro advertised active s s' notes hs hw hstep
  refine ⟨?_, fun ha => hstops.awaiting hs hw hstep ha⟩
  cases hstep with
  | poll hpoll => exact hstops.silent _ _ _ _ _ _ _ hw hpoll

/-- An adapter that admits and serves every invocation at once. -/
def readyAdapter : SidecarCapabilityAdapter where
  admission := .pure (.ok .allow)
  invoke := .pure (.ok (.success .null))

/-- The bridge of the test vectors stops its adapter. -/
theorem vector_stops : ∃ p b,
    (processSystem vectorMac vectorCodec vectorWireCodec).Reachable p ∧ (2, b) ∈ p.bridges ∧
    Stops (fun _ => "0.5") readyAdapter b.runtime Node.echoInvocation := by
  obtain ⟨p, hp, hbridges⟩ := vector_bridges
  obtain ⟨⟨i, b⟩, hb, rfl⟩ : ∃ q ∈ p.bridges, q.1 = 2 := by
    have hm : (2 : UInt64) ∈ p.bridges.map Prod.fst := by simp [hbridges]
    simpa using hm
  obtain ⟨hstops, -⟩ := retirement_stops_native_work vectorMac vectorCodec vectorWireCodec p hp _ b hb
    (fun _ => "0.5") readyAdapter Node.echoInvocation
  exact ⟨p, b, hp, hb, hstops⟩

end OpenclawNode.Sidecar
