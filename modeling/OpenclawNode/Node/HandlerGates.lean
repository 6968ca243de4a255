import OpenclawNode.Node.Evaluation

/-! What has held whenever a handler is called. -/
namespace OpenclawNode.Node

open BigEndian (Bytes)
open BoundedWriter (Serialization feed writeAll toWriter)
open Future (AsyncFn Polled)

/-- The limit writer takes what fits in all. -/
theorem feed_limitWriter {written maximum : Nat} (h : written ≤ maximum) (chunks : List Bytes) :
    feed LimitWriter.write ⟨written, maximum⟩ chunks =
      if written + chunks.flatten.length ≤ maximum then
        some ⟨written + chunks.flatten.length, maximum⟩ else none := by
  induction chunks generalizing written with
  | nil => simp [feed, h]
  | cons chunk chunks ih =>
    have hwrite : writeAll LimitWriter.write ⟨written, maximum⟩ chunk =
        if written + chunk.length ≤ maximum then some ⟨written + chunk.length, maximum⟩
        else none := by
      unfold writeAll
      split
      · next he => simp [he, h]
      · unfold LimitWriter.write
        by_cases hfit : maximum < written + chunk.length
        · simp [hfit]
        · simp [hfit, not_lt.mp hfit]
    have hcons : feed LimitWriter.write ⟨written, maximum⟩ (chunk :: chunks) =
        (writeAll LimitWriter.write ⟨written, maximum⟩ chunk).bind
          (feed LimitWriter.write · chunks) := rfl
    rw [hcons, hwrite, List.flatten_cons, List.length_append]
    by_cases hfit : written + chunk.length ≤ maximum
    · rw [if_pos hfit, Option.bind_some, ih hfit, Nat.add_assoc]
    · rw [if_neg hfit, if_neg (by omega)]
      rfl

theorem serializedJsonWithinLimit_iff {value : Serialization} {maximum : Nat} :
    serializedJsonWithinLimit value maximum = true ↔
      value.failed = false ∧ value.output.length ≤ maximum := by
  unfold serializedJsonWithinLimit toWriter Serialization.output
  rw [feed_limitWriter (Nat.zero_le _), Nat.zero_add]
  generalize value.chunks.flatten.length = length
  by_cases hl : length ≤ maximum
  · by_cases hf : value.failed <;> simp [hl, hf]
  · simp [hl]

variable {H P ω ν : Type} {c : RuntimeClosures H P ω ν} {runtime : CommandRuntime H P}
  {formatDouble : Json.Double → String} {advertised : Finset String} {active : ActiveInvocations}
  {invocation : NodeInvocation} {registration : RegisteredHandler H} {policy : P}
  {start : Nanos} {timeout expires : Option Nanos} {w w' : EvaluationWorld ω}
  {events : List (EvaluationEvent H P ω)} {notes : List ν} {phase phase' : EvaluationPhase c}

/-- The command is the session's, and its input within the limit. -/
structure Entitled (runtime : CommandRuntime H P) (formatDouble : Json.Double → String)
    (advertised : Finset String) (invocation : NodeInvocation)
    (registration : RegisteredHandler H) : Prop where
  advertises : invocation.command ∈ advertised
  registered : runtime.handlers.lookup invocation.command = some registration
  received : ∀ n ∈ invocation.receivedParamsBytes, n ≤ runtime.maxInputBytes
  params : (invocation.params.serialize formatDouble).output.length ≤ runtime.maxInputBytes

/-- The time resolved at the start had not run out. -/
def InTime (start : Nanos) (timeout : Option Nanos) (w : EvaluationWorld ω) : Prop :=
  ∀ remaining ∈ timeout, w.now < start + remaining

/-- Between its start and the call of the handler the policy, if there is one, was called once and
admitted the invocation in time. -/
def Admitted (runtime : CommandRuntime H P) (start : Nanos) (timeout : Option Nanos)
    (before : List (EvaluationEvent H P ω)) : Prop :=
  (runtime.admissionPolicy = none ∧ before = []) ∨
    ∃ policy w₁ w₂, runtime.admissionPolicy = some policy ∧ InTime start timeout w₂ ∧
      before = [.policyCalled policy w₁, .admitted w₂]

/-- No gate is closed at this instant. -/
structure EvaluationWorld.Open (w : EvaluationWorld ω) : Prop where
  accepting : w.inputOverflow = false
  active : w.cancelled = false
  serving : w.sessionRetired = false

/-- The handler was called once, last of all, with every gate open. -/
def Gated (runtime : CommandRuntime H P) (formatDouble : Json.Double → String)
    (advertised : Finset String) (invocation : NodeInvocation)
    (events : List (EvaluationEvent H P ω)) : Prop :=
  ∃ registration start timeout before w,
    events = .resolved start timeout :: before ++ [.handlerCalled registration.handler w] ∧
      Entitled runtime formatDouble advertised invocation registration ∧
      runtime.resolveTimeout invocation start = some timeout ∧
      Admitted runtime start timeout before ∧ InTime start timeout w ∧ w.Open

theorem resolveSessionHandler_eq_ok
    (h : runtime.resolveSessionHandler advertised invocation = .ok registration) :
    invocation.command ∈ advertised ∧
      runtime.handlers.lookup invocation.command = some registration := by
  unfold CommandRuntime.resolveSessionHandler at h
  split at h
  · cases h
  · next ha =>
    refine ⟨not_not.mp ha, ?_⟩
    cases hl : runtime.handlers.lookup invocation.command with
    | none =>
      rw [hl] at h
      cases h
    | some found =>
      rw [hl] at h
      cases h
      rfl

theorem Entitled.of_checks
    (hr : runtime.resolveSessionHandler advertised invocation = .ok registration)
    (hi : runtime.inputWithinLimit formatDouble invocation = true) :
    Entitled runtime formatDouble advertised invocation registration := by
  obtain ⟨ha, hl⟩ := resolveSessionHandler_eq_ok hr
  rw [CommandRuntime.inputWithinLimit, Bool.and_eq_true, serializedJsonWithinLimit_iff] at hi
  refine ⟨ha, hl, ?_, hi.2.2⟩
  intro n hn
  have hall := hi.1
  rw [Option.mem_def.mp hn] at hall
  simpa using hall

/-- A resolved limit has time left. -/
theorem inTime_resolved (h : runtime.resolveTimeout invocation w.now = some timeout) :
    InTime w.now timeout w := by
  intro remaining hr
  unfold CommandRuntime.resolveTimeout at h
  split at h
  · cases h
    cases hr
  · dsimp only at h
    split at h
    · next hlt =>
      cases h
      cases hr
      exact Nat.lt_add_of_pos_right (Nat.sub_pos_of_lt hlt)
    · cases h

/-- A handler that was called is awaited, or the invocation has its result. -/
inductive EvaluationPhase.Called (registration : RegisteredHandler H) : EvaluationPhase c → Prop
  | executing (future : (c.handler registration.handler).State) (expires : Option Nanos) :
      Called registration (.executing registration future expires)
  | stopping (result : InvocationResult) : Called registration (.stopping result)
  | done (result : InvocationResult) : Called registration (.done result)

theorem called_answered (registration : RegisteredHandler H) (result : InvocationResult) :
    (EvaluationPhase.answered c registration result).Called registration := by
  unfold EvaluationPhase.answered
  split
  · exact .stopping result
  · exact .done result

theorem ExecutePoll.called {future : (c.handler registration.handler).State}
    (h : ExecutePoll c runtime formatDouble registration future expires w notes phase w') :
    phase.Called registration := by
  cases h with
  | overflow _ _ => exact called_answered _ _
  | pending _ _ _ _ => exact .executing _ _
  | result _ _ _ _ _ => exact called_answered _ _

theorem handlerEntryRejection_eq_none (h : handlerEntryRejection w = (none, w')) :
    w' = w ∧ w.cancelled = false ∧ w.sessionRetired = false := by
  unfold handlerEntryRejection at h
  split at h
  · cases h
  · next hc =>
    split at h
    · cases h
    · next hr =>
      cases h
      exact ⟨rfl, by simpa using hc, by simpa using hr⟩

/-- The entry either turns the invocation away, or calls the handler with the gates open. -/
theorem EntryPoll.cases_called
    (h : EntryPoll c runtime formatDouble invocation registration timeout w events notes phase w') :
    (events = [] ∧ ∃ result, phase = .done result) ∨
      (events = [.handlerCalled registration.handler w] ∧ w.Open ∧
        phase.Called registration) := by
  cases h with
  | overflow _ => exact Or.inl ⟨rfl, _, rfl⟩
  | rejected result _ _ => exact Or.inl ⟨rfl, result, rfl⟩
  | panicked ho hn hc =>
    obtain ⟨rfl, hcancel, hretired⟩ := handlerEntryRejection_eq_none hn
    exact Or.inr ⟨rfl, ⟨ho, hcancel, hretired⟩, .done _⟩
  | called ho hn hc hx =>
    obtain ⟨rfl, hcancel, hretired⟩ := handlerEntryRejection_eq_none hn
    exact Or.inr ⟨rfl, ⟨ho, hcancel, hretired⟩, hx.called⟩

theorem admissionOutcome_eq_ok {outcome : Polled (Except HandlerError Unit)}
    {remaining : Option Nanos}
    (h : admissionOutcome runtime start timeout expires w outcome = some (.ok remaining)) :
    InTime start timeout w := by
  cases outcome with
  | pending =>
    rw [admissionOutcome] at h
    split at h <;> cases h
  | panicked => cases h
  | ready value =>
    cases value with
    | error _ => cases h
    | ok _ =>
      cases timeout with
      | none => exact fun _ hr => nomatch hr
      | some limit =>
        rw [admissionOutcome] at h
        split at h
        · cases h
        · next hleft =>
          intro remaining hr
          cases hr
          have hlt : w.now - start < limit := Nat.lt_of_sub_ne_zero hleft
          exact lt_add_of_tsub_lt_left hlt

/-- No handler is called before the policy has answered. -/
theorem notCalled_asked (start : Nanos) (timeout : Option Nanos) (policy : P)
    (w₁ : EvaluationWorld ω) (handler : H) (w : EvaluationWorld ω) :
    EvaluationEvent.handlerCalled handler w ∉
      ([.resolved start timeout, .policyCalled policy w₁] : List (EvaluationEvent H P ω)) := by
  simp

/-- What is known of an evaluation between two polls. -/
def EvaluationPhase.Keeps (runtime : CommandRuntime H P) (formatDouble : Json.Double → String)
    (advertised : Finset String) (invocation : NodeInvocation)
    (events : List (EvaluationEvent H P ω)) : EvaluationPhase c → Prop
  | .tracked => events = []
  | .admitting registration policy _ start timeout _ =>
    Entitled runtime formatDouble advertised invocation registration ∧
      runtime.resolveTimeout invocation start = some timeout ∧
      runtime.admissionPolicy = some policy ∧
      ∃ w, events = [.resolved start timeout, .policyCalled policy w]
  | .executing registration _ _ =>
    runtime.handlers.lookup invocation.command = some registration ∧
      Gated runtime formatDouble advertised invocation events
  | .stopping _ | .done _ | .aborted =>
    (∀ handler w, .handlerCalled handler w ∉ events) ∨
      Gated runtime formatDouble advertised invocation events

theorem EvaluationPhase.Called.keeps (hc : phase.Called registration)
    (hl : runtime.handlers.lookup invocation.command = some registration)
    (hg : Gated runtime formatDouble advertised invocation events) :
    phase.Keeps runtime formatDouble advertised invocation events := by
  cases hc with
  | executing _ _ => exact ⟨hl, hg⟩
  | stopping _ => exact Or.inr hg
  | done _ => exact Or.inr hg

/-- An entry after the gates before it keeps what is known. -/
theorem EntryPoll.keeps {before : List (EvaluationEvent H P ω)} {limit : Option Nanos}
    (h : EntryPoll c runtime formatDouble invocation registration limit w events notes phase w')
    (he : Entitled runtime formatDouble advertised invocation registration)
    (hr : runtime.resolveTimeout invocation start = some timeout)
    (ha : Admitted runtime start timeout before) (ht : InTime start timeout w)
    (hnone : ∀ handler w, .handlerCalled handler w ∉ before) :
    phase.Keeps runtime formatDouble advertised invocation
      (.resolved start timeout :: before ++ events) := by
  rcases h.cases_called with ⟨rfl, result, rfl⟩ | ⟨rfl, hopen, hcalled⟩
  · refine Or.inl ?_
    intro handler w hm
    rw [List.append_nil] at hm
    rcases List.mem_cons.mp hm with hm | hm
    · cases hm
    · exact hnone handler w hm
  · exact hcalled.keeps he.registered ⟨registration, start, timeout, before, w, rfl, he, hr, ha, ht,
      hopen⟩

theorem AdmissionPoll.keeps {future : (c.admission policy).State} {w₀ : EvaluationWorld ω}
    (h : AdmissionPoll c runtime formatDouble invocation registration policy future start timeout
      expires w events notes phase w')
    (he : Entitled runtime formatDouble advertised invocation registration)
    (hr : runtime.resolveTimeout invocation start = some timeout)
    (hp : runtime.admissionPolicy = some policy) :
    phase.Keeps runtime formatDouble advertised invocation
      ([.resolved start timeout, .policyCalled policy w₀] ++ events) := by
  cases h with
  | cancelled _ | refused _ _ _ _ _ => exact Or.inl (notCalled_asked start timeout policy w₀)
  | pending _ _ _ _ => exact ⟨he, hr, hp, w₀, rfl⟩
  | admitted outcome _ _ ho hentry =>
    have ht := admissionOutcome_eq_ok ho
    have hadmitted : Admitted runtime start timeout [.policyCalled policy w₀, .admitted _] :=
      Or.inr ⟨policy, w₀, _, hp, ht, rfl⟩
    refine hentry.keeps he hr hadmitted ht ?_
    intro handler w hm
    simp at hm

theorem EvaluationPoll.keeps
    (h : EvaluationPoll c runtime formatDouble advertised invocation phase w events notes phase' w')
    {before : List (EvaluationEvent H P ω)}
    (hk : phase.Keeps runtime formatDouble advertised invocation before) :
    phase'.Keeps runtime formatDouble advertised invocation (before ++ events) := by
  cases h with
  | unresolved _ _ | tooLarge _ _ | elapsed _ _ _ =>
    refine Or.inl ?_
    intro handler w hm
    rw [show before = [] from hk] at hm
    cases hm
  | unguarded hr hi ht hp hentry =>
    rw [show before = [] from hk]
    exact hentry.keeps (.of_checks hr hi) ht (Or.inl ⟨hp, rfl⟩) (inTime_resolved ht)
      fun _ _ hm => nomatch hm
  | policyPanicked _ _ _ _ _ =>
    rw [show before = [] from hk]
    exact Or.inl (notCalled_asked _ _ _ w)
  | guarded hr hi ht hp _ hadmission =>
    rw [show before = [] from hk]
    exact hadmission.keeps (.of_checks hr hi) ht hp
  | admitting hadmission =>
    obtain ⟨he, hr, hp, w₀, rfl⟩ := hk
    exact hadmission.keeps he hr hp
  | executing hx =>
    rw [List.append_nil]
    exact hx.called.keeps hk.1 hk.2
  | stopped result =>
    rw [List.append_nil]
    exact hk

/-- An invocation that is not tracked is never evaluated. -/
theorem consume_keeps (consumer : Consumer) (permit place : Bool) :
    (runtime.consume c consumer permit place active invocation).Keeps runtime formatDouble
      advertised invocation [] := by
  unfold CommandRuntime.consume
  dsimp only
  split
  · exact Or.inl fun _ _ hm => nomatch hm
  · split
    · split
      · exact Or.inl fun _ _ hm => nomatch hm
      · rfl
    · split <;> exact Or.inl fun _ _ hm => nomatch hm

theorem keeps_step {s s' : EvaluationRun c} {a : EvaluationAction ν}
    (hs : EvaluationStep c runtime formatDouble advertised invocation s a s')
    (h : s.phase.Keeps runtime formatDouble advertised invocation s.events) :
    s'.phase.Keeps runtime formatDouble advertised invocation s'.events := by
  cases hs with
  | poll hp => exact hp.keeps h
  | environment _ => exact h
  | abort =>
    show _ ∨ _
    cases hp : s.phase with
    | tracked =>
      rw [hp] at h
      refine Or.inl ?_
      rw [show s.events = [] from h]
      exact fun _ _ hm => nomatch hm
    | admitting _ _ _ _ _ _ =>
      rw [hp] at h
      obtain ⟨-, -, -, w, he⟩ := h
      rw [he]
      exact Or.inl (notCalled_asked _ _ _ w)
    | executing _ _ _ =>
      rw [hp] at h
      exact Or.inr h.2
    | stopping _ | done _ | aborted =>
      rw [hp] at h
      exact h

theorem keeps_reachable {s : EvaluationRun c}
    (hs : (evaluationSystem c runtime formatDouble advertised active invocation).Reachable s) :
    s.phase.Keeps runtime formatDouble advertised invocation s.events := by
  let P (s : EvaluationRun c) : Prop :=
    s.phase.Keeps runtime formatDouble advertised invocation s.events
  have hstep : ∀ s a s', EvaluationStep c runtime formatDouble advertised invocation s a s' →
      P s → P s' := fun _ _ _ hst h => keeps_step hst h
  refine hs.invariant (P := P) ?_ hstep
  rintro s₀ ⟨consumer, permit, place, hp, he⟩
  show s₀.phase.Keeps runtime formatDouble advertised invocation s₀.events
  rw [hp, he]
  exact consume_keeps consumer permit place

theorem gated_or_not {s : EvaluationRun c}
    (hs : (evaluationSystem c runtime formatDouble advertised active invocation).Reachable s) :
    (∀ handler w, .handlerCalled handler w ∉ s.events) ∨
      Gated runtime formatDouble advertised invocation s.events :=
  keeps_step .abort (keeps_reachable hs)

/-- A taken invocation whose id is being executed gets its result without an evaluation. -/
def EvaluationRun.Idle (s : EvaluationRun c) : Prop :=
  (s.phase = .aborted ∨ ∃ result, s.phase = .done result) ∧ s.events = []

theorem idle_step {s s' : EvaluationRun c} {a : EvaluationAction ν}
    (hs : EvaluationStep c runtime formatDouble advertised invocation s a s') (h : s.Idle) :
    s'.Idle := by
  cases hs with
  | poll hp =>
    rcases h.1 with hphase | ⟨result, hphase⟩ <;> rw [hphase] at hp <;> cases hp
  | environment _ => exact h
  | abort => exact ⟨Or.inl rfl, h.2⟩

theorem consume_duplicate (consumer : Consumer) (permit place : Bool)
    (hd : active.inner.lookup invocation.id ≠ none) :
    runtime.consume c consumer permit place active invocation = .aborted ∨
      ∃ result, runtime.consume c consumer permit place active invocation = .done result := by
  unfold CommandRuntime.consume
  dsimp only
  split
  · exact Or.inr ⟨_, rfl⟩
  · split
    · cases hl : active.inner.lookup invocation.id with
      | none => exact absurd hl hd
      | some state =>
        simp only [ActiveInvocations.newToken, ActiveInvocations.track, hl]
        exact Or.inr ⟨_, rfl⟩
    · split
      · exact Or.inr ⟨_, rfl⟩
      · exact Or.inl rfl

/-- Fail-closed gates: in every run of an evaluation its handler is called at most once, and only
when the command is advertised and registered, the input is within the limit, the policy has
admitted the invocation once and in time, and nothing is cancelled, overflown or retired. An
invocation whose id is being executed reaches neither the policy nor a handler. -/
theorem handler_gated (c : RuntimeClosures H P ω ν) (runtime : CommandRuntime H P)
    (formatDouble : Json.Double → String) (advertised : Finset String) (active : ActiveInvocations)
    (invocation : NodeInvocation) (s : EvaluationRun c)
    (hs : (evaluationSystem c runtime formatDouble advertised active invocation).Reachable s) :
    ((∀ handler w, .handlerCalled handler w ∉ s.events) ∨
      Gated runtime formatDouble advertised invocation s.events) ∧
    (active.inner.lookup invocation.id ≠ none → s.events = []) := by
  constructor
  · exact gated_or_not hs
  · intro hd
    have h : s.Idle := by
      refine hs.invariant ?_ fun _ _ _ hst h => idle_step hst h
      rintro s₀ ⟨consumer, permit, place, hp, he⟩
      refine ⟨?_, he⟩
      rw [hp]
      exact consume_duplicate consumer permit place hd
    exact h.2

/-- A runtime of one command whose policy and handler are ready at once. -/
def echoClosures : RuntimeClosures Unit Unit Unit Unit where
  admission _ := .pure (.ok ())
  handler _ := .pure (.ok .null)

def echoRuntime : CommandRuntime Unit Unit where
  handlers := AList.singleton "echo" ⟨(), false⟩
  capabilities := ∅
  admissionPolicy := some ()
  permits := 1
  deliveryCapacity := 1
  maxInputBytes := 16
  maxOutputBytes := 16
  defaultTimeout := 2
  maxTimeout := 2
  resultGrace := 0
  permits_pos := le_refl 1
  deliveryCapacity_eq := rfl

/-- A runtime of that command whose handler has a millisecond at most. -/
def timedRuntime (policy : Option Unit) (duplex : Bool) : CommandRuntime Unit Unit where
  handlers := AList.singleton "echo" ⟨(), duplex⟩
  capabilities := ∅
  admissionPolicy := policy
  permits := 1
  deliveryCapacity := 1
  maxInputBytes := 16
  maxOutputBytes := 16
  defaultTimeout := fromMillis 1
  maxTimeout := fromMillis 1
  resultGrace := 0
  permits_pos := le_refl 1
  deliveryCapacity_eq := rfl

example (policy : Option Unit) (duplex : Bool) : ({
    registrations := [⟨"echo", (), duplex⟩]
    admissionPolicy := policy
    maxConcurrency := 1
    maxInputBytes := 16
    maxOutputBytes := 16
    maxTimeout := fromMillis 1
    resultGrace := 0 } : CommandRuntimeBuilder Unit Unit).build =
      .ok (timedRuntime policy duplex) := by
  cases duplex <;> rfl

def echoInvocation : NodeInvocation where
  id := "invoke-1"
  nodeId := "node-1"
  command := "echo"
  params := .null
  timeoutMs := none
  idempotencyKey := none
  sessionKey := none
  receivedParamsBytes := some 4
  receivedAt := some 0

/-- The world in which the invocation arrives, a nanosecond after it was received. -/
def echoWorld : EvaluationWorld Unit := ⟨1, false, false, false, ()⟩

/-- An invocation with time left passes every gate in one poll. -/
theorem echo_poll (runtime : CommandRuntime Unit Unit) (invocation : NodeInvocation)
    (limit : Nanos) (hpos : 0 < limit) (hpolicy : runtime.admissionPolicy = some ())
    (houtput : serializedJsonWithinLimit (Json.Value.null.serialize fun _ => "")
      runtime.maxOutputBytes = true)
    (hcommand : runtime.resolveSessionHandler {"echo"} invocation = .ok ⟨(), false⟩)
    (hinput : runtime.inputWithinLimit (fun _ => "") invocation = true)
    (hlimit : runtime.resolveTimeout invocation 1 = some (some limit)) :
    EvaluationPoll echoClosures runtime (fun _ => "") {"echo"} invocation .tracked echoWorld
      [.resolved 1 (some limit), .policyCalled () echoWorld, .admitted echoWorld,
        .handlerCalled () echoWorld] [] (.done (.success .null)) echoWorld := by
  let w : EvaluationWorld Unit := echoWorld
  have hresult : handlerOutcome runtime (fun _ => "") (some (1 + limit)) w
      (.ready (.ok .null)) = (some (.success .null), w) := if_pos houtput
  have hcalled : (echoClosures.handler ()).Call invocation w [] (some ()) w :=
    ⟨rfl, rfl, rfl⟩
  have hasked : (echoClosures.admission ()).Call invocation w [] (some ()) w :=
    ⟨rfl, rfl, rfl⟩
  have hhandler : (echoClosures.handler ()).Poll () w [] (.ready (.ok .null)) () w :=
    ⟨rfl, rfl, rfl⟩
  have hpolls : (echoClosures.admission ()).Poll () w [] (.ready (.ok ())) () w :=
    ⟨rfl, rfl, rfl⟩
  have hadmits : admissionOutcome runtime 1 (some limit) (some (1 + limit)) w
      (.ready (.ok ())) = some (.ok (some limit)) := by
    rw [admissionOutcome]
    exact if_neg (Nat.ne_of_gt hpos)
  have hexecute : ExecutePoll echoClosures runtime (fun _ => "") ⟨(), false⟩ ()
      (some (1 + limit)) w [] (.done (.success .null)) w :=
    .result (.ready (.ok .null)) _ (fun hd => nomatch hd) hhandler hresult
  have hentry : EntryPoll echoClosures runtime (fun _ => "") invocation ⟨(), false⟩
      (some limit) w [.handlerCalled () w] [] (.done (.success .null)) w :=
    .called rfl rfl hcalled hexecute
  have hadmission : AdmissionPoll echoClosures runtime (fun _ => "") invocation
      ⟨(), false⟩ () () 1 (some limit) (some (1 + limit)) w [.admitted w, .handlerCalled () w] []
      (.done (.success .null)) w :=
    .admitted (.ready (.ok ())) rfl hpolls hadmits hentry
  exact .guarded hcommand hinput hlimit hpolicy hasked hadmission

theorem initial_tracked (c : RuntimeClosures Unit Unit Unit Unit)
    (runtime : CommandRuntime Unit Unit) (invocation : NodeInvocation) (w : EvaluationWorld Unit) :
    (evaluationSystem c runtime (fun _ => "") {"echo"} .empty invocation).Initial
      ⟨.tracked, w, []⟩ := by
  refine ⟨.run, true, true, ?_, rfl⟩
  simp [CommandRuntime.consume, ActiveInvocations.newToken, ActiveInvocations.track,
    ActiveInvocations.empty]

theorem echo_reachable : (evaluationSystem echoClosures echoRuntime (fun _ => "") {"echo"} .empty
    echoInvocation).Reachable ⟨.done (.success .null), echoWorld,
      [.resolved 1 (some 1), .policyCalled () echoWorld, .admitted echoWorld,
        .handlerCalled () echoWorld]⟩ :=
  (Transition.System.Reachable.initial (initial_tracked _ _ echoInvocation echoWorld)).step
    (.poll (echo_poll echoRuntime echoInvocation 1 Nat.one_pos rfl rfl rfl rfl rfl))

theorem echo_gated : ∃ s : EvaluationRun echoClosures, s.events.length = 4 ∧
    (((∀ handler w, .handlerCalled handler w ∉ s.events) ∨
      Gated echoRuntime (fun _ => "") {"echo"} echoInvocation s.events) ∧
    (ActiveInvocations.empty.inner.lookup echoInvocation.id ≠ none → s.events = [])) :=
  ⟨_, rfl, handler_gated echoClosures echoRuntime (fun _ => "") {"echo"} .empty echoInvocation _
    echo_reachable⟩

end OpenclawNode.Node
