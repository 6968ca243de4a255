import OpenclawNode.Node.HandlerGates
import OpenclawNode.Node.InvocationEvents

/-! How much of its time limit a handler is granted. -/
namespace OpenclawNode.Node

open Future (AsyncFn Polled)
open Json (Value)
open Transition (System)

variable {H P ω ν : Type} {c : RuntimeClosures H P ω ν} {runtime : CommandRuntime H P}
  {formatDouble : Json.Double → String} {advertised : Finset String} {active : ActiveInvocations}
  {invocation : NodeInvocation} {registration : RegisteredHandler H} {policy : P}
  {start : Nanos} {timeout expires granted : Option Nanos} {w w' : EvaluationWorld ω}
  {events before : List (EvaluationEvent H P ω)} {notes : List ν} {phase phase' : EvaluationPhase c}

/-- An invocation whose frame the session task received at one instant, and that `next_node_event`
took from the event buffer at another. -/
structure Delivery where
  arrival : Nanos
  taken : Nanos
  invocation : NodeInvocation
  order : arrival ≤ taken
  parsed : ∃ describe fromStr payload,
    parseInvocation describe fromStr payload taken = .ok invocation

/-- The instant of receipt is that at which the event was taken. -/
theorem Delivery.receivedAt_eq (d : Delivery) : d.invocation.receivedAt = some d.taken := by
  obtain ⟨describe, fromStr, payload, h⟩ := d.parsed
  simp only [parseInvocation, Except.bind_eq_ok] at h
  obtain ⟨_, -, _, -, _, -, _, -, _, -, _, -, h⟩ := h
  injection h with h
  rw [← h]

/-- The whole time that an invocation with this limit may take. -/
def CommandRuntime.budget (runtime : CommandRuntime H P) (milliseconds : UInt64) : Nanos :=
  min (fromMillis milliseconds.toNat) runtime.maxTimeout - runtime.resultGrace

def EvaluationEvent.time : EvaluationEvent H P ω → Nanos
  | .resolved now _ => now
  | .policyCalled _ w | .admitted w | .handlerCalled _ w => w.now

/-- The clock never runs back from the instant an event was taken on. -/
def Clocked (taken : Nanos) (events : List (EvaluationEvent H P ω)) : Prop :=
  (taken :: events.map EvaluationEvent.time).Pairwise (· ≤ ·)

/-- The events of an evaluation that entered its handler at an instant, with this time left. -/
inductive Granted : List (EvaluationEvent H P ω) → EvaluationWorld ω → Option Nanos → Prop
  | unguarded {handler} (timeout : Option Nanos) (w : EvaluationWorld ω) :
      Granted [.resolved w.now timeout, .handlerCalled handler w] w timeout
  | guarded {policy handler} (start : Nanos) (timeout : Option Nanos)
      (w₁ w : EvaluationWorld ω) :
      Granted [.resolved start timeout, .policyCalled policy w₁, .admitted w,
        .handlerCalled handler w] w (timeout.map (· - (w.now - start)))

/-- A handler that was entered with this time left is awaited no longer than that. -/
inductive EvaluationPhase.Limited (granted : Option Nanos) : EvaluationPhase c → Prop
  | executing {registration future} (entered : Nanos) :
      Limited granted (.executing registration future (granted.map (entered + ·)))
  | stopping (result : InvocationResult) : Limited granted (.stopping result)
  | done (result : InvocationResult) : Limited granted (.done result)

theorem limited_answered (result : InvocationResult) :
    (EvaluationPhase.answered c registration result).Limited granted := by
  unfold EvaluationPhase.answered
  split
  · exact .stopping result
  · exact .done result

theorem ExecutePoll.limited {future : (c.handler registration.handler).State} {entered : Nanos}
    (h : ExecutePoll c runtime formatDouble registration future (granted.map (entered + ·)) w notes
      phase w') : phase.Limited granted := by
  cases h with
  | overflow _ _ => exact limited_answered _
  | pending _ _ _ _ => exact .executing entered
  | result _ _ _ _ _ => exact limited_answered _

/-- The handler is entered with the time that is left to it, or not at all. -/
theorem EntryPoll.cases_limited
    (h : EntryPoll c runtime formatDouble invocation registration timeout w events notes phase w') :
    (events = [] ∧ ∃ result, phase = .done result) ∨
      (events = [.handlerCalled registration.handler w] ∧ phase.Limited timeout) := by
  cases h with
  | overflow _ => exact Or.inl ⟨rfl, _, rfl⟩
  | rejected result _ _ => exact Or.inl ⟨rfl, result, rfl⟩
  | panicked _ hn _ =>
    obtain ⟨rfl, -, -⟩ := handlerEntryRejection_eq_none hn
    exact Or.inr ⟨rfl, .done _⟩
  | called _ hn _ hx =>
    obtain ⟨rfl, -, -⟩ := handlerEntryRejection_eq_none hn
    exact Or.inr ⟨rfl, hx.limited⟩

/-- What the policy took is charged. -/
theorem remaining_of_admissionOutcome {outcome : Polled (Except HandlerError Unit)}
    {remaining : Option Nanos}
    (h : admissionOutcome runtime start timeout expires w outcome = some (.ok remaining)) :
    remaining = timeout.map (· - (w.now - start)) := by
  cases outcome with
  | pending =>
    rw [admissionOutcome] at h
    split at h <;> cases h
  | panicked => cases h
  | ready value =>
    cases value with
    | error _ => cases h
    | ok _ =>
      cases timeout with
      | none =>
        cases h
        rfl
      | some limit =>
        rw [admissionOutcome] at h
        split at h
        · cases h
        · cases h
          rfl

/-- What is known of the time of a handler between two polls. -/
def EvaluationPhase.Grants (events : List (EvaluationEvent H P ω)) (phase : EvaluationPhase c) :
    Prop :=
  (∀ handler w, .handlerCalled handler w ∉ events) ∨
    ∃ w granted, Granted events w granted ∧ (phase = .aborted ∨ phase.Limited granted)

theorem AdmissionPoll.grants {future : (c.admission policy).State} {w₁ : EvaluationWorld ω}
    (h : AdmissionPoll c runtime formatDouble invocation registration policy future start timeout
      expires w events notes phase w') :
    phase.Grants ([.resolved start timeout, .policyCalled policy w₁] ++ events) := by
  cases h with
  | cancelled _ | refused _ _ _ _ _ | pending _ _ _ _ =>
    exact Or.inl (notCalled_asked start timeout policy w₁)
  | admitted outcome _ _ ho hentry =>
    rcases hentry.cases_limited with ⟨rfl, -⟩ | ⟨rfl, hlimited⟩
    · refine Or.inl ?_
      intro handler w hm
      simp at hm
    · rw [remaining_of_admissionOutcome ho] at hlimited
      exact Or.inr ⟨_, _, .guarded start timeout w₁ _, Or.inr hlimited⟩

theorem EvaluationPoll.grants
    (h : EvaluationPoll c runtime formatDouble advertised invocation phase w events notes phase' w')
    (hk : phase.Keeps runtime formatDouble advertised invocation before)
    (hg : phase.Grants before) : phase'.Grants (before ++ events) := by
  cases h with
  | unresolved _ _ | tooLarge _ _ | elapsed _ _ _ =>
    rw [show before = [] from hk]
    exact Or.inl fun _ _ hm => nomatch hm
  | unguarded _ _ _ _ hentry =>
    rw [show before = [] from hk]
    rcases hentry.cases_limited with ⟨rfl, -⟩ | ⟨rfl, hlimited⟩
    · refine Or.inl ?_
      intro handler w hm
      simp at hm
    · exact Or.inr ⟨_, _, .unguarded _ _, Or.inr hlimited⟩
  | policyPanicked _ _ _ _ _ =>
    rw [show before = [] from hk]
    exact Or.inl (notCalled_asked _ _ _ w)
  | guarded _ _ _ _ _ hadmission =>
    rw [show before = [] from hk]
    exact hadmission.grants
  | admitting hadmission =>
    obtain ⟨-, -, -, w₁, rfl⟩ := hk
    exact hadmission.grants
  | executing hx =>
    rw [List.append_nil]
    rcases hg with hg | ⟨w₁, granted, hgranted, hphase | hlimited⟩
    · exact Or.inl hg
    · cases hphase
    · cases hlimited with
      | executing entered => exact Or.inr ⟨w₁, granted, hgranted, Or.inr hx.limited⟩
  | stopped result =>
    rw [List.append_nil]
    rcases hg with hg | ⟨w₁, granted, hgranted, hphase | -⟩
    · exact Or.inl hg
    · cases hphase
    · exact Or.inr ⟨w₁, granted, hgranted, Or.inr (.done result)⟩

theorem grants_reachable {s : EvaluationRun c}
    (hs : (evaluationSystem c runtime formatDouble advertised active invocation).Reachable s) :
    s.phase.Grants s.events := by
  refine hs.invariant_of_reachable (P := fun s => s.phase.Grants s.events) ?_ ?_
  · rintro s₀ ⟨_, _, _, -, he⟩
    rw [he]
    exact Or.inl fun _ _ hm => nomatch hm
  · intro s a s' hreach hstep hg
    cases hstep with
    | poll hp => exact hp.grants (keeps_reachable hreach) hg
    | environment _ => exact hg
    | abort =>
      rcases hg with hg | ⟨w, granted, hgranted, -⟩
      · exact Or.inl hg
      · exact Or.inr ⟨w, granted, hgranted, Or.inl rfl⟩

theorem Granted.called (h : Granted events w granted) :
    ∃ handler, .handlerCalled handler w ∈ events := by
  cases h with
  | @unguarded handler _ _ => exact ⟨handler, by simp⟩
  | @guarded _ handler _ _ _ _ => exact ⟨handler, by simp⟩

/-- A limit that was resolved is what the time since the event was taken leaves of the budget. -/
theorem resolveTimeout_delivery {d : Delivery} {milliseconds : UInt64}
    (hms : d.invocation.timeoutMs = some milliseconds) (hpos : milliseconds ≠ 0)
    (h : runtime.resolveTimeout d.invocation start = some timeout) :
    timeout = some (runtime.budget milliseconds - (start - d.taken)) := by
  rw [CommandRuntime.resolveTimeout, hms, if_neg (by simpa using hpos), d.receivedAt_eq] at h
  dsimp only [Option.elim, Option.map, Option.getD] at h
  split at h
  · cases h
    rfl
  · cases h

/-- The handler was called at that instant only. -/
theorem Granted.eq_of_called {handler : H} (h : Granted events w granted)
    (hm : .handlerCalled handler w' ∈ events) : w = w' := by
  cases h with
  | unguarded timeout w =>
    simp only [List.mem_cons, reduceCtorEq, EvaluationEvent.handlerCalled.injEq, List.not_mem_nil,
      or_false, false_or] at hm
    exact hm.2.symm
  | guarded start timeout w₁ w =>
    simp only [List.mem_cons, reduceCtorEq, EvaluationEvent.handlerCalled.injEq, List.not_mem_nil,
      or_false, false_or] at hm
    exact hm.2.symm

/-- What is left when the handler is called is the resolved limit less the time since. -/
theorem Granted.eq_map {handler : H} {w₁ : EvaluationWorld ω}
    (h : Granted (.resolved start timeout :: before ++ [.handlerCalled handler w₁]) w granted) :
    w₁ = w ∧ granted = timeout.map (· - (w.now - start)) := by
  generalize hevents : .resolved start timeout :: before ++ [.handlerCalled handler w₁] =
    events at h
  have hhead := congrArg List.head? hevents
  have hlast := congrArg List.getLast? hevents
  rw [List.getLast?_concat] at hlast
  cases h with
  | unguarded timeout w =>
    cases hhead
    cases hlast
    refine ⟨rfl, ?_⟩
    cases timeout <;> simp
  | guarded start timeout w₁ w =>
    cases hhead
    cases hlast
    exact ⟨rfl, rfl⟩

/-- The limit is resolved after the event was taken, and the handler called after that. -/
theorem Clocked.ordered {taken : Nanos} {handler : H}
    (h : Clocked taken (.resolved start timeout :: before ++ [.handlerCalled handler w])) :
    taken ≤ start ∧ start ≤ w.now := by
  have hpair : (taken :: start :: (before.map EvaluationEvent.time ++ [w.now])).Pairwise
      (· ≤ ·) := by
    simpa [Clocked, EvaluationEvent.time] using h
  rw [List.pairwise_cons, List.pairwise_cons] at hpair
  exact ⟨hpair.1 start (by simp), hpair.2.1 w.now (by simp)⟩

theorem charged_eq {taken start now budget : Nat} (htaken : taken ≤ start) (hstart : start ≤ now)
    (hleft : now < start + (budget - (start - taken))) :
    taken ≤ now ∧ now - taken < budget ∧
      budget - (start - taken) - (now - start) = budget - (now - taken) := by
  omega

/-- The time left to a handler is what the time since the event was taken leaves of the budget. -/
theorem granted_eq {d : Delivery} {milliseconds : UInt64} {s : EvaluationRun c}
    (hms : d.invocation.timeoutMs = some milliseconds) (hpos : milliseconds ≠ 0)
    (hs : (evaluationSystem c runtime formatDouble advertised active d.invocation).Reachable s)
    (hclock : Clocked d.taken s.events) (hg : Granted s.events w granted) :
    d.taken ≤ w.now ∧ w.now - d.taken < runtime.budget milliseconds ∧
      granted = some (runtime.budget milliseconds - (w.now - d.taken)) := by
  have hgated : Gated runtime formatDouble advertised d.invocation s.events := by
    rcases gated_or_not hs with hnone | hgated
    · obtain ⟨handler, hcalled⟩ := hg.called
      exact absurd hcalled (hnone handler w)
    · exact hgated
  obtain ⟨registration, start, timeout, before, w₁, hevents, -, hresolved, -, hintime, -⟩ := hgated
  rw [hevents] at hclock hg
  obtain ⟨rfl, hgranted⟩ := hg.eq_map
  obtain ⟨htaken, hstart⟩ := hclock.ordered
  have hlimit := resolveTimeout_delivery hms hpos hresolved
  rw [hlimit] at hintime hgranted
  obtain ⟨hafter, hless, heq⟩ := charged_eq htaken hstart (hintime _ rfl)
  refine ⟨hafter, hless, ?_⟩
  rw [hgranted, Option.map_some, heq]

/-- What is left since the event was taken is left since the frame was received exactly when the
event spent no time in the buffer. -/
theorem charged_le_iff {arrival taken now budget : Nat} (horder : arrival ≤ taken)
    (hafter : taken ≤ now) (hless : now - taken < budget) :
    budget - (now - taken) + (now - arrival) ≤ budget ↔ taken = arrival := by
  omega

/-- A policy that closes no gate, and neither refuses nor panics. -/
structure Permissive (c : RuntimeClosures H P ω ν) (policy : P) : Prop where
  called : ∀ {invocation w notes future w'},
    (c.admission policy).Call invocation w notes future w' → w.Open → future ≠ none ∧ w'.Open
  polled : ∀ {future w notes outcome future' w'},
    (c.admission policy).Poll future w notes outcome future' w' → w.Open →
      (outcome = .pending ∨ outcome = .ready (.ok ())) ∧ w'.Open

/-- A tracked evaluation that nobody aborts and whose gates nobody closes. -/
def undisturbedSystem (c : RuntimeClosures H P ω ν) (runtime : CommandRuntime H P)
    (formatDouble : Json.Double → String) (advertised : Finset String) (active : ActiveInvocations)
    (invocation : NodeInvocation) : System (EvaluationRun c) (EvaluationAction ν) where
  Initial s := (evaluationSystem c runtime formatDouble advertised active invocation).Initial s ∧
    s.phase = .tracked ∧ s.world.Open
  Step s a s' := EvaluationStep c runtime formatDouble advertised invocation s a s' ∧
    a ≠ .abort ∧ (a = .environment → s'.world.Open)

/-- An evaluation that waits with every gate open, or has run out of time. -/
def EvaluationPhase.Waits (w : EvaluationWorld ω) : EvaluationPhase c → Prop
  | .tracked | .admitting _ _ _ _ _ _ => w.Open
  | .done result => ∃ message, result = failure "HANDLER_TIMEOUT" message
  | _ => False

def EvaluationRun.OnTime (s : EvaluationRun c) : Prop :=
  (∃ handler w, .handlerCalled handler w ∈ s.events) ∨ s.phase.Waits s.world

/-- An entry with every gate open calls the handler. -/
theorem EntryPoll.enters
    (h : EntryPoll c runtime formatDouble invocation registration timeout w events notes phase w')
    (ho : w.Open) : .handlerCalled registration.handler w ∈ events := by
  cases h with
  | overflow hoverflow =>
    rw [ho.accepting] at hoverflow
    cases hoverflow
  | rejected result _ hr =>
    simp [handlerEntryRejection, ho.active, ho.serving] at hr
  | panicked _ hn _ =>
    obtain ⟨rfl, -, -⟩ := handlerEntryRejection_eq_none hn
    exact List.mem_singleton_self _
  | called _ hn _ _ =>
    obtain ⟨rfl, -, -⟩ := handlerEntryRejection_eq_none hn
    exact List.mem_singleton_self _

/-- Only its time can end an admission by a permissive policy. -/
theorem admissionOutcome_timeout {outcome : Polled (Except HandlerError Unit)}
    {result : InvocationResult} (hp : outcome = .pending ∨ outcome = .ready (.ok ()))
    (h : admissionOutcome runtime start timeout expires w outcome = some (.error result)) :
    ∃ message, result = failure "HANDLER_TIMEOUT" message := by
  rcases hp with rfl | rfl
  · rw [admissionOutcome] at h
    split at h
    · cases h
      exact ⟨_, rfl⟩
    · cases h
  · cases timeout with
    | none => cases h
    | some limit =>
      rw [admissionOutcome] at h
      split at h
      · cases h
        exact ⟨_, rfl⟩
      · cases h

theorem AdmissionPoll.waits {future : (c.admission policy).State}
    (h : AdmissionPoll c runtime formatDouble invocation registration policy future start timeout
      expires w events notes phase w') (hp : Permissive c policy) (ho : w.Open) :
    (∃ handler w, .handlerCalled handler w ∈ events) ∨ phase.Waits w' := by
  cases h with
  | cancelled hcancelled =>
    rw [ho.active] at hcancelled
    cases hcancelled
  | pending _ _ hpoll _ => exact Or.inr (hp.polled hpoll ho).2
  | refused _ _ _ hpoll houtcome =>
    exact Or.inr (admissionOutcome_timeout (hp.polled hpoll ho).1 houtcome)
  | admitted _ _ hpoll _ hentry =>
    have hentered := hentry.enters (hp.polled hpoll ho).2
    exact Or.inl ⟨_, _, List.mem_cons_of_mem _ hentered⟩

theorem EvaluationPoll.waits
    (h : EvaluationPoll c runtime formatDouble advertised invocation phase w events notes phase' w')
    (hr : runtime.resolveSessionHandler advertised invocation = .ok registration)
    (hi : runtime.inputWithinLimit formatDouble invocation = true)
    (hp : ∀ policy ∈ runtime.admissionPolicy, Permissive c policy)
    (hk : phase.Keeps runtime formatDouble advertised invocation before) (hw : phase.Waits w) :
    (∃ handler w, .handlerCalled handler w ∈ events) ∨ phase'.Waits w' := by
  cases h with
  | unresolved _ hunresolved =>
    rw [hr] at hunresolved
    cases hunresolved
  | tooLarge _ hlarge =>
    rw [hi] at hlarge
    cases hlarge
  | elapsed _ _ _ => exact Or.inr ⟨_, rfl⟩
  | unguarded _ _ _ _ hentry =>
    exact Or.inl ⟨_, _, List.mem_cons_of_mem _ (hentry.enters hw)⟩
  | policyPanicked _ _ _ hpolicy hcall =>
    exact absurd rfl ((hp _ hpolicy).called hcall hw).1
  | guarded _ _ _ hpolicy hcall hadmission =>
    have hpermissive := hp _ hpolicy
    rcases hadmission.waits hpermissive (hpermissive.called hcall hw).2 with
      ⟨handler, w, hm⟩ | hwaits
    · exact Or.inl ⟨handler, w, List.mem_cons_of_mem _ (List.mem_cons_of_mem _ hm)⟩
    · exact Or.inr hwaits
  | admitting hadmission => exact hadmission.waits (hp _ hk.2.2.1) hw
  | executing _ | stopped _ => exact hw.elim

theorem onTime_reachable {s : EvaluationRun c}
    (hr : runtime.resolveSessionHandler advertised invocation = .ok registration)
    (hi : runtime.inputWithinLimit formatDouble invocation = true)
    (hp : ∀ policy ∈ runtime.admissionPolicy, Permissive c policy)
    (hs : (undisturbedSystem c runtime formatDouble advertised active invocation).Reachable s) :
    s.OnTime := by
  have hboth : s.phase.Keeps runtime formatDouble advertised invocation s.events ∧ s.OnTime := by
    refine hs.invariant (P := fun s =>
      s.phase.Keeps runtime formatDouble advertised invocation s.events ∧ s.OnTime) ?_ ?_
    · rintro s₀ ⟨⟨_, _, _, -, he⟩, hphase, hopen⟩
      dsimp only [EvaluationRun.OnTime]
      rw [hphase]
      exact ⟨he, Or.inr hopen⟩
    · rintro s a s' ⟨hstep, habort, hopen⟩ ⟨hk, ht⟩
      refine ⟨keeps_step hstep hk, ?_⟩
      cases hstep with
      | @poll phase world events notes hpoll =>
        rcases ht with ⟨handler, w, hm⟩ | hw
        · exact Or.inl ⟨handler, w, List.mem_append_left _ hm⟩
        · rcases hpoll.waits hr hi hp hk hw with ⟨handler, w, hm⟩ | hwaits
          · exact Or.inl ⟨handler, w, List.mem_append_right _ hm⟩
          · exact Or.inr hwaits
      | environment w =>
        rcases ht with hm | hw
        · exact Or.inl hm
        · refine Or.inr ?_
          have hw' : w.Open := hopen rfl
          dsimp only at hw ⊢
          cases hphase : s.phase with
          | tracked | admitting _ _ _ _ _ _ => exact hw'
          | done _ | executing _ _ _ | stopping _ | aborted =>
            rw [hphase] at hw
            exact hw
      | abort => exact absurd rfl habort
  exact hboth.2

/-- A handler is entered only with time left, and with no more than the time since the frame was
received leaves of the budget exactly when the event spent no time in the buffer. An invocation that
nothing else ends either enters its handler or runs out of time. -/
theorem charged_since_arrival_iff (c : RuntimeClosures H P ω ν) (runtime : CommandRuntime H P)
    (formatDouble : Json.Double → String) (advertised : Finset String) (active : ActiveInvocations)
    (d : Delivery) (milliseconds : UInt64) (hms : d.invocation.timeoutMs = some milliseconds)
    (hpos : milliseconds ≠ 0) :
    (∀ s : EvaluationRun c,
      (evaluationSystem c runtime formatDouble advertised active d.invocation).Reachable s →
      Clocked d.taken s.events → ∀ handler w, .handlerCalled handler w ∈ s.events →
      ∃ granted, Granted s.events w (some granted) ∧
        (s.phase = .aborted ∨ s.phase.Limited (some granted)) ∧ 0 < granted ∧
        (granted + (w.now - d.arrival) ≤ runtime.budget milliseconds ↔ d.taken = d.arrival)) ∧
    ∀ registration, runtime.resolveSessionHandler advertised d.invocation = .ok registration →
      runtime.inputWithinLimit formatDouble d.invocation = true →
      (∀ policy ∈ runtime.admissionPolicy, Permissive c policy) → ∀ s : EvaluationRun c,
      (undisturbedSystem c runtime formatDouble advertised active d.invocation).Reachable s →
      ∀ result, s.phase = .done result →
      (∃ handler w, .handlerCalled handler w ∈ s.events) ∨
        ∃ message, result = failure "HANDLER_TIMEOUT" message := by
  constructor
  · intro s hs hclock handler w hm
    rcases grants_reachable hs with hnone | ⟨w', granted, hg, hphase⟩
    · exact absurd hm (hnone handler w)
    · obtain rfl := hg.eq_of_called hm
      obtain ⟨hafter, hless, rfl⟩ := granted_eq hms hpos hs hclock hg
      exact ⟨_, hg, hphase, Nat.sub_pos_of_lt hless, charged_le_iff d.order hafter hless⟩
  · intro registration hr hi hp s hs result hdone
    rcases onTime_reachable hr hi hp hs with hm | hwaits
    · exact Or.inl hm
    · rw [hdone] at hwaits
      exact Or.inr hwaits

/-- An event that asks for an invocation of at most a millisecond. -/
def echoPayload : Value :=
  .object [("command", .string "echo"), ("id", .string "invoke-1"), ("nodeId", .string "node-1"),
    ("timeoutMs", .number (.posInt 1))]

/-- The event was received at one instant and taken at the next. -/
def echoDelivery (arrival : Nanos) (order : arrival ≤ 1) : Delivery where
  arrival := arrival
  taken := 1
  invocation := { echoInvocation with
    timeoutMs := some 1
    receivedParamsBytes := some 0
    receivedAt := some 1 }
  order := order
  parsed := ⟨fun _ => "", fun _ => .ok .null, echoPayload, rfl⟩

def briefRuntime : CommandRuntime Unit Unit := timedRuntime (some ()) false

/-- What an evaluation that reaches its handler with the whole millisecond left has done. -/
def briefEvents : List (EvaluationEvent Unit Unit Unit) :=
  [.resolved 1 (some 1000000), .policyCalled () echoWorld, .admitted echoWorld,
    .handlerCalled () echoWorld]

theorem brief_reachable (arrival : Nanos) (order : arrival ≤ 1) :
    (evaluationSystem echoClosures briefRuntime (fun _ => "") {"echo"} .empty
      (echoDelivery arrival order).invocation).Reachable
        ⟨.done (.success .null), echoWorld, briefEvents⟩ :=
  (System.Reachable.initial (initial_tracked _ _ _ echoWorld)).step
    (.poll (echo_poll briefRuntime (echoDelivery arrival order).invocation 1000000 (by decide) rfl
      rfl rfl rfl rfl))

theorem brief_clocked : Clocked 1 briefEvents := by
  simp [Clocked, briefEvents, EvaluationEvent.time, echoWorld]

/-- Taken at once, the handler has its whole millisecond, and two milliseconds after the event was
received it is not entered. -/
theorem charged_since_arrival_iff_brief :
    (∃ granted, Granted briefEvents echoWorld (some granted) ∧ 0 < granted ∧
      (granted + (1 - 1) ≤ briefRuntime.budget 1 ↔ 1 = 1)) ∧
    ∃ s : EvaluationRun echoClosures,
      s.phase = .done (failure "HANDLER_TIMEOUT" "command handler deadline already elapsed") ∧
      ((∃ handler w, .handlerCalled handler w ∈ s.events) ∨ ∃ message,
        failure "HANDLER_TIMEOUT" "command handler deadline already elapsed" =
          failure "HANDLER_TIMEOUT" message) := by
  have h := charged_since_arrival_iff echoClosures briefRuntime (fun _ => "") {"echo"} .empty
    (echoDelivery 1 (le_refl 1)) 1 rfl (by decide)
  constructor
  · obtain ⟨granted, hg, -, hpos, hiff⟩ :=
      h.1 _ (brief_reachable 1 (le_refl 1)) brief_clocked () echoWorld (by simp [briefEvents])
    exact ⟨granted, hg, hpos, hiff⟩
  · let w : EvaluationWorld Unit := ⟨2000000, false, false, false, ()⟩
    have hpermissive : ∀ policy ∈ briefRuntime.admissionPolicy, Permissive echoClosures policy := by
      intro policy _
      constructor
      · rintro invocation w notes future w' ⟨-, rfl, rfl⟩ hopen
        exact ⟨Option.some_ne_none _, hopen⟩
      · rintro future w notes outcome future' w' ⟨-, rfl, rfl⟩ hopen
        exact ⟨Or.inr rfl, hopen⟩
    have hpoll : EvaluationPoll echoClosures briefRuntime (fun _ => "") {"echo"}
        (echoDelivery 1 (le_refl 1)).invocation .tracked w [] []
        (.done (failure "HANDLER_TIMEOUT" "command handler deadline already elapsed")) w.cancel :=
      .elapsed rfl rfl rfl
    let S := undisturbedSystem echoClosures briefRuntime (fun _ => "") {"echo"} .empty
      (echoDelivery 1 (le_refl 1)).invocation
    have hinitial : S.Initial ⟨.tracked, w, []⟩ :=
      ⟨initial_tracked _ _ _ w, rfl, ⟨rfl, rfl, rfl⟩⟩
    have hstep : S.Step ⟨.tracked, w, []⟩ (.poll []) ⟨.done _, w.cancel, []⟩ :=
      ⟨.poll hpoll, nofun, nofun⟩
    have hs : S.Reachable ⟨.done _, w.cancel, []⟩ := (System.Reachable.initial hinitial).step hstep
    exact ⟨_, rfl, h.2 ⟨(), false⟩ rfl rfl hpermissive _ hs _ rfl⟩

/-- An event that waited a nanosecond in the buffer has its handler entered with the whole
millisecond left. -/
theorem not_charged_since_arrival :
    ¬ ∀ s : EvaluationRun echoClosures,
      (evaluationSystem echoClosures briefRuntime (fun _ => "") {"echo"} .empty
        (echoDelivery 0 (Nat.zero_le 1)).invocation).Reachable s →
      Clocked 1 s.events → ∀ w granted, Granted s.events w (some granted) →
      granted + (w.now - (echoDelivery 0 (Nat.zero_le 1)).arrival) ≤ briefRuntime.budget 1 := by
  intro h
  have hgranted : Granted briefEvents echoWorld (some 1000000) :=
    .guarded 1 (some 1000000) echoWorld echoWorld
  have hle := h _ (brief_reachable 0 _) brief_clocked echoWorld 1000000 hgranted
  exact absurd hle (by decide)

end OpenclawNode.Node
