import OpenclawNode.Node.HandlerGates
import OpenclawNode.Node.RuntimeLoop

/-! Which result an invocation gets whose input has overflown. -/
namespace OpenclawNode.Node

open Future (AsyncFn Polled)
open Transition (System)

variable {H P ω ν : Type} {c : RuntimeClosures H P ω ν} {runtime : CommandRuntime H P}
  {formatDouble : Json.Double → String} {advertised : Finset String} {active : ActiveInvocations}
  {invocation : NodeInvocation} {registration : RegisteredHandler H} {policy : P}
  {start : Nanos} {timeout expires : Option Nanos} {w w' v : EvaluationWorld ω}
  {events before : List (EvaluationEvent H P ω)} {notes : List ν} {phase phase' : EvaluationPhase c}
  {m : ActiveInvocations} {e : ActiveInvocationState}

def inputBufferOverflow : InvocationResult :=
  failure "INPUT_BUFFER_OVERFLOW" "duplex command input exceeded the pending-byte limit"

/-- The tokens of an invocation as an overflow leaves them. -/
structure EvaluationWorld.Overflown (w : EvaluationWorld ω) : Prop where
  overflow : w.inputOverflow = true
  cancelled : w.cancelled = true

/-- A token that is cancelled stays so. -/
structure EvaluationWorld.After (w w' : EvaluationWorld ω) : Prop where
  overflow : w.inputOverflow = true → w'.inputOverflow = true
  cancelled : w.cancelled = true → w'.cancelled = true

/-- The world in which an evaluation sees the tokens of its entry. -/
def EvaluationWorld.observe (w : EvaluationWorld ω) (m : ActiveInvocations)
    (e : ActiveInvocationState) : EvaluationWorld ω :=
  { w with
    cancelled := m.tokens.getD e.cancellation false
    inputOverflow := m.tokens.getD e.inputOverflow false }

/-- The tokens of an entry are among those that were made. -/
structure ActiveInvocationState.Made (m : ActiveInvocations) (e : ActiveInvocationState) :
    Prop where
  cancellation : e.cancellation < m.tokens.length
  inputOverflow : e.inputOverflow < m.tokens.length

theorem ActiveInvocationState.Made.mono {k : ActiveInvocations} (h : e.Made m)
    (hle : m.tokens.length ≤ k.tokens.length) : e.Made k :=
  ⟨lt_of_lt_of_le h.cancellation hle, lt_of_lt_of_le h.inputOverflow hle⟩

def ActiveInvocations.EntriesMade (m : ActiveInvocations) : Prop :=
  ∀ id e, m.inner.lookup id = some e → e.Made m

/-- An id that is tracked gets tokens that were made, the other entries keep theirs. -/
theorem ActiveInvocations.EntriesMade.track (h : m.EntriesMade) (id nodeId : String)
    {cancellation : Token} (duplex : Bool) (ht : cancellation < m.tokens.length) :
    (m.track id nodeId cancellation duplex).2.EntriesMade := by
  dsimp only [ActiveInvocations.track]
  cases hl : m.inner.lookup id with
  | some found => exact h
  | none =>
    intro other e he
    have hlength : (m.tokens ++ [false]).length = m.tokens.length + 1 := List.length_append
    by_cases hid : other = id
    · subst hid
      rw [AList.lookup_insert] at he
      cases he
      exact ⟨hlength ▸ Nat.lt_succ_of_lt ht, hlength ▸ Nat.lt_succ_self _⟩
    · rw [AList.lookup_insert_ne hid] at he
      exact (h other e he).mono (hlength ▸ Nat.le_succ _)

/-- Dropping a guard removes at most an entry. -/
theorem ActiveInvocations.EntriesMade.dropGuard (h : m.EntriesMade) (g : ActiveInvocation) :
    (m.dropGuard g).EntriesMade := by
  intro id e he
  obtain ⟨hinner, hlength, -⟩ := m.dropGuard_keeps g
  rw [hinner] at he
  by_cases hid : id = g.id
  · rw [hid, AList.lookup_erase] at he
    cases he
  · rw [AList.lookup_erase_ne hid] at he
    exact (h id e he).mono hlength.ge

theorem entriesMade_step {r r' : ActiveRun} {a : ActiveAction} (hs : ActiveStep r a r')
    (h : r.scope.EntriesMade) : r'.scope.EntriesMade := by
  cases hs with
  | newToken =>
    intro id e he
    exact (h id e he).mono (List.length_append ▸ Nat.le_add_right _ _)
  | track _ ht => exact h.track _ _ _ ht
  | disarm _ => exact h
  | drop _ => exact h.dropGuard _
  | cancel id' =>
    intro id e he
    rw [ActiveInvocations.inner_cancel] at he
    exact (h id e he).mono (r.scope.length_cancel id').1.ge
  | cancelAll =>
    intro id e he
    rw [r.scope.cancelAll_keeps.1, AList.lookup_empty] at he
    cases he
  | input id' nodeId seq payload =>
    intro id e he
    obtain ⟨hinner, hlength, -⟩ := r.scope.input_keeps id' nodeId seq payload
    rw [hinner] at he
    exact (h id e he).mono hlength.ge

/-- The entries of a scope that its calls have made hold tokens that were made. -/
theorem entriesMade_reachable {r : ActiveRun} (hr : activeSystem.Reachable r) :
    r.scope.EntriesMade := by
  refine hr.invariant (P := fun r => r.scope.EntriesMade) ?_ fun _ _ _ hs h => entriesMade_step hs h
  rintro r rfl id e he
  rw [ActiveInvocations.empty, AList.lookup_empty] at he
  cases he

theorem tokens_input_of_overflow {id nodeId payload : String} {seq : UInt64}
    (he : m.inner.lookup id = some e) (ho : (m.input id nodeId seq payload).1 = .overflow) :
    (m.input id nodeId seq payload).2.tokens = m.tokens.set e.inputOverflow true ∧
      (m.input id nodeId seq payload).2.inner = m.inner := by
  simp only [ActiveInvocations.input, he] at ho ⊢
  split at ho
  · cases ho
  · next hnode =>
    rw [if_neg hnode]
    cases hinput : e.input with
    | none =>
      rw [hinput] at ho
      cases ho
    | some address =>
      rw [hinput] at ho
      dsimp only at ho ⊢
      cases hbuffer : m.buffers[address]? with
      | none =>
        rw [hbuffer] at ho
        cases ho
      | some buffer =>
        rw [hbuffer] at ho
        dsimp only at ho ⊢
        rw [if_pos ho]
        exact ⟨rfl, rfl⟩

/-- An input event that overflows its buffer sets both tokens of its invocation. -/
theorem overflown_route {id nodeId payload : String} {seq : UInt64} (hm : e.Made m)
    (he : m.inner.lookup id = some e) (ho : (m.input id nodeId seq payload).1 = .overflow) :
    (w.observe (routeInvocationControl m (.invocationInput id nodeId seq payload))
      e).Overflown := by
  obtain ⟨htokens, hinner⟩ := tokens_input_of_overflow he ho
  have hrouted : (routeInvocationControl m (.invocationInput id nodeId seq payload)).tokens =
      (m.tokens.set e.inputOverflow true).set e.cancellation true := by
    simp only [routeInvocationControl, ho, if_true]
    rw [ActiveInvocations.cancel, hinner, he]
    dsimp only
    rw [ActiveInvocations.tokens_closeInput, ActiveInvocations.cancelToken, htokens]
  constructor
  · have hlt : e.inputOverflow < m.tokens.length := hm.inputOverflow
    simp [EvaluationWorld.observe, hrouted, hlt, List.getElem_set]
  · have hlt : e.cancellation < m.tokens.length := hm.cancellation
    simp [EvaluationWorld.observe, hrouted, hlt]

/-- An evaluation that nobody aborts and that passes the gate of its initial deadline. -/
def keptSystem (c : RuntimeClosures H P ω ν) (runtime : CommandRuntime H P)
    (formatDouble : Json.Double → String) (advertised : Finset String) (active : ActiveInvocations)
    (invocation : NodeInvocation) : System (EvaluationRun c) (EvaluationAction ν) where
  Initial := (evaluationSystem c runtime formatDouble advertised active invocation).Initial
  Step s a s' := EvaluationStep c runtime formatDouble advertised invocation s a s' ∧
    a ≠ .abort ∧ (a = .environment → s.world.After s'.world) ∧
    (s.phase = .tracked → a ≠ .environment → runtime.resolveTimeout invocation s.world.now ≠ none)

/-- No result has been reached. -/
inductive EvaluationPhase.Unresolved : EvaluationPhase c → Prop
  | tracked : Unresolved .tracked
  | admitting {registration policy future started timeout expires} :
      Unresolved (.admitting registration policy future started timeout expires)
  | executing {registration future expires} : Unresolved (.executing registration future expires)

/-- The next poll looks at the overflow first: no admission is to be awaited before it. -/
def EvaluationPhase.Listens (runtime : CommandRuntime H P) : EvaluationPhase c → Prop
  | .tracked => runtime.admissionPolicy = none
  | .executing _ _ _ => True
  | _ => False

/-- The overflow is waiting to be reported, or is the result. -/
def EvaluationRun.Reports (runtime : CommandRuntime H P) (s : EvaluationRun c) : Prop :=
  (s.phase.Listens runtime ∧ s.world.Overflown) ∨
    ((s.phase = .stopping inputBufferOverflow ∨ s.phase = .done inputBufferOverflow) ∧
      s.world.cancelled = true)

/-- A poll of a duplex handler whose input has overflown ends it. -/
theorem ExecutePoll.reports {future : (c.handler registration.handler).State}
    (h : ExecutePoll c runtime formatDouble registration future expires w notes phase w')
    (hd : registration.duplex = true) (ho : w.inputOverflow = true) :
    phase = .stopping inputBufferOverflow ∧ w' = w.cancel := by
  cases h with
  | overflow _ _ => exact ⟨if_pos hd, rfl⟩
  | pending _ hlistens _ _ =>
    rw [hlistens hd] at ho
    cases ho
  | result _ _ hlistens _ _ =>
    rw [hlistens hd] at ho
    cases ho

/-- No handler is entered after an overflow. -/
theorem EntryPoll.reports
    (h : EntryPoll c runtime formatDouble invocation registration timeout w events notes phase w')
    (ho : w.inputOverflow = true) :
    phase = .done inputBufferOverflow ∧ w' = w.cancel := by
  cases h with
  | overflow _ => exact ⟨rfl, rfl⟩
  | rejected _ haccepts _ | panicked haccepts _ _ | called haccepts _ _ _ =>
    rw [haccepts] at ho
    cases ho

theorem EvaluationPoll.reports
    (h : EvaluationPoll c runtime formatDouble advertised invocation phase w events notes phase' w')
    (hr : runtime.resolveSessionHandler advertised invocation = .ok registration)
    (hi : runtime.inputWithinLimit formatDouble invocation = true)
    (hd : registration.duplex = true)
    (ht : phase = .tracked → runtime.resolveTimeout invocation w.now ≠ none)
    (hk : phase.Keeps runtime formatDouble advertised invocation before)
    (hl : phase.Listens runtime) (ho : w.inputOverflow = true) :
    (phase' = .stopping inputBufferOverflow ∨ phase' = .done inputBufferOverflow) ∧
      w' = w.cancel := by
  cases h with
  | unresolved _ hunresolved =>
    rw [hr] at hunresolved
    cases hunresolved
  | tooLarge _ hlarge =>
    rw [hi] at hlarge
    cases hlarge
  | elapsed _ _ helapsed => exact absurd helapsed (ht rfl)
  | unguarded _ _ _ _ hentry =>
    obtain ⟨hphase, hworld⟩ := hentry.reports ho
    exact ⟨Or.inr hphase, hworld⟩
  | policyPanicked _ _ _ hpolicy _ | guarded _ _ _ hpolicy _ _ =>
    rw [show runtime.admissionPolicy = none from hl] at hpolicy
    cases hpolicy
  | admitting _ => exact hl.elim
  | @executing _ _ found _ _ _ _ hx =>
    have hfound : found = registration :=
      Option.some.inj (hk.1.symm.trans (resolveSessionHandler_eq_ok hr).2)
    obtain ⟨hphase, hworld⟩ := hx.reports (hfound ▸ hd) ho
    exact ⟨Or.inl hphase, hworld⟩
  | stopped _ => exact hl.elim

theorem reports_step {s s' : EvaluationRun c} {a : EvaluationAction ν}
    (hs : (keptSystem c runtime formatDouble advertised active invocation).Step s a s')
    (hr : runtime.resolveSessionHandler advertised invocation = .ok registration)
    (hi : runtime.inputWithinLimit formatDouble invocation = true)
    (hd : registration.duplex = true)
    (hk : s.phase.Keeps runtime formatDouble advertised invocation s.events)
    (h : s.Reports runtime) : s'.Reports runtime := by
  obtain ⟨hstep, habort, hafter, hgate⟩ := hs
  cases hstep with
  | @poll phase world events notes hpoll =>
    rcases h with ⟨hlistens, ho⟩ | ⟨hphase | hphase, hc⟩
    · obtain ⟨hphase, hworld⟩ :=
        hpoll.reports hr hi hd (fun ht => hgate ht nofun) hk hlistens ho.overflow
      refine Or.inr ⟨hphase, ?_⟩
      rw [hworld]
      rfl
    · rw [hphase] at hpoll
      cases hpoll with
      | stopped _ => exact Or.inr ⟨Or.inr rfl, hc⟩
    · rw [hphase] at hpoll
      cases hpoll
  | environment world =>
    have hafter := hafter rfl
    rcases h with ⟨hlistens, ho⟩ | ⟨hphase, hc⟩
    · exact Or.inl ⟨hlistens, hafter.overflow ho.overflow, hafter.cancelled ho.cancelled⟩
    · exact Or.inr ⟨hphase, hafter.cancelled hc⟩
  | abort => exact absurd rfl habort

/-- What an overflow leaves to report is reported, in every run to a result. -/
theorem reports_run {s s' : EvaluationRun c} {result : InvocationResult}
    (hrun : (keptSystem c runtime formatDouble advertised active invocation).Run s s')
    (hr : runtime.resolveSessionHandler advertised invocation = .ok registration)
    (hi : runtime.inputWithinLimit formatDouble invocation = true)
    (hd : registration.duplex = true)
    (hk : s.phase.Keeps runtime formatDouble advertised invocation s.events)
    (h : s.Reports runtime) (hdone : s'.phase = .done result) :
    result = inputBufferOverflow ∧ s'.world.cancelled = true := by
  have hboth : s'.phase.Keeps runtime formatDouble advertised invocation s'.events ∧
      s'.Reports runtime := by
    refine hrun.stable (P := fun s =>
      s.phase.Keeps runtime formatDouble advertised invocation s.events ∧ s.Reports runtime) ?_
      ⟨hk, h⟩
    rintro s a s' hstep ⟨hk, h⟩
    exact ⟨keeps_step hstep.1 hk, reports_step hstep hr hi hd hk h⟩
  rcases hboth.2 with ⟨hlistens, -⟩ | ⟨hphase | hphase, hc⟩
  · rw [hdone] at hlistens
    exact hlistens.elim
  · rw [hdone] at hphase
    cases hphase
  · rw [hdone] at hphase
    cases hphase
    exact ⟨rfl, hc⟩

theorem kept_poll {s : EvaluationRun c}
    (h : EvaluationPoll c runtime formatDouble advertised invocation s.phase s.world events notes
      phase w)
    (ht : s.phase = .tracked → runtime.resolveTimeout invocation s.world.now ≠ none) :
    (keptSystem c runtime formatDouble advertised active invocation).Run s
      ⟨phase, w, s.events ++ events⟩ :=
  .single (a := .poll notes) ⟨.poll h, nofun, nofun, fun hp _ => ht hp⟩

/-- Two polls report an overflow that is waiting. -/
theorem reports_ends {s : EvaluationRun c}
    (hr : runtime.resolveSessionHandler advertised invocation = .ok registration)
    (hi : runtime.inputWithinLimit formatDouble invocation = true)
    (hd : registration.duplex = true)
    (hk : s.phase.Keeps runtime formatDouble advertised invocation s.events)
    (ht : s.phase = .tracked → runtime.resolveTimeout invocation s.world.now ≠ none)
    (hl : s.phase.Listens runtime) (ho : s.world.Overflown) :
    ∃ s', (keptSystem c runtime formatDouble advertised active invocation).Run s s' ∧
      s'.phase = .done inputBufferOverflow := by
  obtain ⟨phase, w, events⟩ := s
  cases phase with
  | tracked =>
    obtain ⟨limit, hlimit⟩ := Option.ne_none_iff_exists'.mp (ht rfl)
    have hpoll : EvaluationPoll c runtime formatDouble advertised invocation .tracked w
        [.resolved w.now limit] [] (.done inputBufferOverflow) w.cancel :=
      .unguarded hr hi hlimit hl (.overflow ho.overflow)
    exact ⟨_, kept_poll hpoll ht, rfl⟩
  | executing found future expires =>
    have hfound : found = registration :=
      Option.some.inj (hk.1.symm.trans (resolveSessionHandler_eq_ok hr).2)
    have hanswered : EvaluationPhase.answered c found inputBufferOverflow =
        .stopping inputBufferOverflow := if_pos (hfound ▸ hd)
    have hpoll : EvaluationPoll c runtime formatDouble advertised invocation
        (.executing found future expires) w [] [] (.stopping inputBufferOverflow) w.cancel := by
      rw [← hanswered]
      exact .executing (.overflow (hfound ▸ hd) ho.overflow)
    have hstopped : EvaluationPoll c runtime formatDouble advertised invocation
        (.stopping inputBufferOverflow) w.cancel [] [] (.done inputBufferOverflow) w.cancel :=
      .stopped inputBufferOverflow
    let s₁ : EvaluationRun c := ⟨.stopping inputBufferOverflow, w.cancel, events ++ []⟩
    have hrun : (keptSystem c runtime formatDouble advertised active invocation).Run
        ⟨.executing found future expires, w, events⟩ s₁ := kept_poll hpoll ht
    exact ⟨_, hrun.trans (kept_poll (s := s₁) hstopped nofun), rfl⟩
  | admitting _ _ _ _ _ _ | stopping _ | done _ | aborted => exact hl.elim

/-- A policy that can be called without a panic, and that leaves a cancelled token cancelled. -/
def Callable (c : RuntimeClosures H P ω ν) (invocation : NodeInvocation) (policy : P) : Prop :=
  ∀ w : EvaluationWorld ω, w.cancelled = true → ∃ notes future w',
    (c.admission policy).Call invocation w notes (some future) w' ∧ w'.cancelled = true

def cancelledDuringAdmission : InvocationResult :=
  failure "INVOCATION_CANCELLED" "command invocation was cancelled during admission"

/-- An admission that is awaited before the overflow is looked at takes it for a cancel. -/
theorem admission_misreports {s : EvaluationRun c}
    (hr : runtime.resolveSessionHandler advertised invocation = .ok registration)
    (hi : runtime.inputWithinLimit formatDouble invocation = true)
    (hp : ∀ policy ∈ runtime.admissionPolicy, Callable c invocation policy)
    (hu : s.phase.Unresolved)
    (ht : s.phase = .tracked → runtime.resolveTimeout invocation s.world.now ≠ none)
    (hl : ¬ s.phase.Listens runtime) (ho : s.world.Overflown) :
    ∃ s', (keptSystem c runtime formatDouble advertised active invocation).Run s s' ∧
      s'.phase = .done cancelledDuringAdmission := by
  obtain ⟨phase, w, events⟩ := s
  cases hu with
  | tracked =>
    obtain ⟨limit, hlimit⟩ := Option.ne_none_iff_exists'.mp (ht rfl)
    obtain ⟨policy, hpolicy⟩ := Option.ne_none_iff_exists'.mp hl
    obtain ⟨notes, future, w', hcall, hcancelled⟩ := hp policy hpolicy w ho.cancelled
    have hpoll : EvaluationPoll c runtime formatDouble advertised invocation .tracked w
        [.resolved w.now limit, .policyCalled policy w] (notes ++ [])
        (.done cancelledDuringAdmission) w'.cancel :=
      .guarded hr hi hlimit hpolicy hcall (.cancelled hcancelled)
    exact ⟨_, kept_poll hpoll ht, rfl⟩
  | @admitting found policy future started timeout expires =>
    have hpoll : EvaluationPoll c runtime formatDouble advertised invocation
        (.admitting found policy future started timeout expires) w [] []
        (.done cancelledDuringAdmission) w.cancel :=
      .admitting (.cancelled ho.cancelled)
    exact ⟨_, kept_poll hpoll ht, rfl⟩
  | executing => exact absurd trivial hl

/-- An overflow that comes between the admission and the entry is reported at once. -/
theorem AdmissionPoll.reports {future : (c.admission policy).State}
    (h : AdmissionPoll c runtime formatDouble invocation registration policy future start timeout
      expires w events notes phase w') (hm : .admitted v ∈ events) (ho : v.inputOverflow = true) :
    phase = .done inputBufferOverflow ∧ w'.cancelled = true := by
  cases h with
  | cancelled _ | pending _ _ _ _ | refused _ _ _ _ _ => cases hm
  | admitted _ _ _ _ hentry =>
    rcases List.mem_cons.mp hm with hv | hm
    · cases hv
      obtain ⟨hphase, hworld⟩ := hentry.reports ho
      refine ⟨hphase, ?_⟩
      rw [hworld]
      rfl
    · rcases hentry.cases_called with ⟨rfl, -⟩ | ⟨rfl, -, -⟩
      · cases hm
      · cases List.mem_singleton.mp hm

theorem EvaluationPoll.reports_admitted
    (h : EvaluationPoll c runtime formatDouble advertised invocation phase w events notes phase' w')
    (hm : .admitted v ∈ events) (ho : v.inputOverflow = true) :
    phase' = .done inputBufferOverflow ∧ w'.cancelled = true := by
  cases h with
  | unresolved _ _ | tooLarge _ _ | elapsed _ _ _ | executing _ | stopped _ => cases hm
  | unguarded _ _ _ _ hentry =>
    rcases hentry.cases_called with ⟨rfl, -⟩ | ⟨rfl, -, -⟩ <;> simp at hm
  | policyPanicked _ _ _ _ _ => simp at hm
  | guarded _ _ _ _ _ hadmission =>
    have hm := (List.mem_cons.mp hm).resolve_left nofun
    exact hadmission.reports ((List.mem_cons.mp hm).resolve_left nofun) ho
  | admitting hadmission => exact hadmission.reports hm ho

/-- Where an evaluation stands once a routed input event has overflown its buffer. -/
def EvaluationRun.routed (s : EvaluationRun c) (m : ActiveInvocations) (e : ActiveInvocationState)
    (event : NodeSessionEvent) : EvaluationRun c :=
  { s with world := s.world.observe (routeInvocationControl m event) e }

/-- An overflow is reported as such wherever it comes while a handler is awaited, or before the
first poll of an evaluation without a policy. Everywhere else an admission is awaited before it is
looked at, and takes the cancel that follows an overflow for one of its own. An overflow that comes
while the policy is admitting the invocation is reported. -/
theorem overflow_reported (c : RuntimeClosures H P ω ν) (runtime : CommandRuntime H P)
    (formatDouble : Json.Double → String) (advertised : Finset String) (active : ActiveInvocations)
    (invocation : NodeInvocation) (registration : RegisteredHandler H)
    (hr : runtime.resolveSessionHandler advertised invocation = .ok registration)
    (hi : runtime.inputWithinLimit formatDouble invocation = true)
    (hd : registration.duplex = true) (s : EvaluationRun c)
    (hs : (evaluationSystem c runtime formatDouble advertised active invocation).Reachable s)
    (hu : s.phase.Unresolved)
    (ht : s.phase = .tracked → runtime.resolveTimeout invocation s.world.now ≠ none)
    (r : ActiveRun) (hscope : activeSystem.Reachable r) (e : ActiveInvocationState)
    (he : r.scope.inner.lookup invocation.id = some e) (seq : UInt64) (payload : String)
    (ho : (r.scope.input invocation.id invocation.nodeId seq payload).1 = .overflow) :
    let s₁ := s.routed r.scope e
      (.invocationInput invocation.id invocation.nodeId seq payload)
    let S := keptSystem c runtime formatDouble advertised active invocation
    (s.phase.Listens runtime →
      (∃ s', S.Run s₁ s' ∧ s'.phase = .done inputBufferOverflow) ∧
      ∀ s' result, S.Run s₁ s' → s'.phase = .done result →
        result = inputBufferOverflow ∧ s'.world.cancelled = true) ∧
    ((∀ policy ∈ runtime.admissionPolicy, Callable c invocation policy) →
      ¬ s.phase.Listens runtime → ∃ s', S.Run s₁ s' ∧ s'.phase = .done cancelledDuringAdmission) ∧
    ∀ events notes phase' w',
      EvaluationPoll c runtime formatDouble advertised invocation s.phase s.world events notes
        phase' w' → ∀ v, .admitted v ∈ events → v.inputOverflow = true →
      phase' = .done inputBufferOverflow ∧ w'.cancelled = true := by
  intro s₁ S
  have hoverflown : s₁.world.Overflown :=
    overflown_route (entriesMade_reachable hscope invocation.id e he) he ho
  have hk : s.phase.Keeps runtime formatDouble advertised invocation s.events :=
    keeps_reachable hs
  refine ⟨?_, ?_, ?_⟩
  · intro hl
    refine ⟨reports_ends hr hi hd hk ht hl hoverflown, ?_⟩
    intro s' result hrun hdone
    exact reports_run hrun hr hi hd hk (Or.inl ⟨hl, hoverflown⟩) hdone
  · intro hp hl
    exact admission_misreports hr hi hp hu ht hl hoverflown
  · intro events notes phase' w' hpoll v hm hv
    exact hpoll.reports_admitted hm hv

/-- One duplex invocation, with this input pending. -/
def scopeWith (buffer : InputBuffer) : ActiveInvocations where
  inner := AList.singleton "invoke-1" ⟨"node-1", 0, some 0, 1⟩
  tokens := [false, false]
  buffers := [buffer]

/-- A buffer that holds a payload several times. -/
def InputBuffer.repeated (payload : String) (n : Nat) : InputBuffer where
  nextSeq := UInt64.ofNat n
  queue := List.replicate n payload
  bufferedBytes := n * 16384
  closed := false
  maximumBytes := defaultPendingInputBytes

/-- Four input frames of the greatest size fill a buffer. -/
theorem push_repeated {payload : String} {n : Nat} (hp : (Text.utf8 payload).length = 16384)
    (hn : n < 4) : (InputBuffer.repeated payload n).push (UInt64.ofNat n) payload =
      (.repeated payload (n + 1), .accepted) := by
  have hseq : InputBuffer.nextAfter (UInt64.ofNat n) = UInt64.ofNat (n + 1) := by
    interval_cases n <;> decide
  have hfits : ¬ defaultPendingInputBytes < n * 16384 + 16384 := by
    rw [defaultPendingInputBytes]
    omega
  simp [InputBuffer.push, InputBuffer.repeated, hp, hseq, hfits, Nat.succ_mul,
    List.replicate_succ']

/-- A fifth one overflows it. -/
theorem push_full {payload : String} (hp : (Text.utf8 payload).length = 16384) :
    ((InputBuffer.repeated payload 4).push 4 payload).2 = .overflow := by
  have hlarge : defaultPendingInputBytes < 4 * 16384 + 16384 := by decide
  simp [InputBuffer.push, InputBuffer.repeated, hp, hlarge]

theorem input_scopeWith (buffer : InputBuffer) (seq : UInt64) (payload : String) :
    (scopeWith buffer).input "invoke-1" "node-1" seq payload =
      ((buffer.push seq payload).2, if (buffer.push seq payload).2 = .overflow then
        (scopeWith (buffer.push seq payload).1).cancelToken 1
      else scopeWith (buffer.push seq payload).1) := rfl

theorem repeated_reachable {payload : String} {n : Nat}
    (hp : (Text.utf8 payload).length = 16384) (hn : n ≤ 4) :
    ∃ r, activeSystem.Reachable r ∧ r.scope = scopeWith (.repeated payload n) := by
  induction n with
  | zero =>
    have hinitial : activeSystem.Reachable ⟨.empty, fun _ => none⟩ := .initial rfl
    have hstep : ActiveStep ⟨ActiveInvocations.empty.newToken.2, fun _ => none⟩
        (.track 0 "invoke-1" "node-1" 0 true) _ := .track rfl (by decide)
    exact ⟨_, (hinitial.step .newToken).step hstep, by simp [scopeWith, InputBuffer.repeated]; rfl⟩
  | succ n ih =>
    obtain ⟨⟨scope, guards⟩, hr, rfl⟩ := ih (by omega)
    refine ⟨_, hr.step (.input "invoke-1" "node-1" (UInt64.ofNat n) payload), ?_⟩
    dsimp only
    rw [input_scopeWith, push_repeated hp (by omega)]
    rfl

theorem overflow_repeated {payload : String} (hp : (Text.utf8 payload).length = 16384) :
    ((scopeWith (.repeated payload 4)).input "invoke-1" "node-1" 4 payload).1 = .overflow := by
  rw [input_scopeWith]
  exact push_full hp

theorem length_frame (n : Nat) : (Text.utf8 (String.ofList (List.replicate n 'a'))).length = n := by
  have hsize : 'a'.utf8Size = 1 := by decide
  rw [Text.length_utf8_ofList, List.map_replicate, List.sum_replicate, hsize, smul_eq_mul,
    Nat.mul_one]

/-- A policy that never answers, and the echo of before. -/
def pendingClosures : RuntimeClosures Unit Unit Unit Unit where
  admission _ :=
    { State := Unit
      Call := fun _ w notes future w' => notes = [] ∧ future = some () ∧ w' = w
      Poll := fun _ w notes outcome _ w' => notes = [] ∧ outcome = .pending ∧ w' = w }
  handler _ := .pure (.ok .null)

def duplexRuntime (policy : Option Unit) : CommandRuntime Unit Unit := timedRuntime policy true

/-- Without a policy the fifth frame before the first poll is reported. -/
theorem overflow_reported_tracked :
    ∃ (s₁ s' : EvaluationRun pendingClosures), s₁.phase = .tracked ∧
      (keptSystem pendingClosures (duplexRuntime none) (fun _ => "") {"echo"} .empty
        echoInvocation).Run s₁ s' ∧ s'.phase = .done inputBufferOverflow := by
  obtain ⟨payload, hp⟩ : ∃ payload, (Text.utf8 payload).length = 16384 := ⟨_, length_frame _⟩
  obtain ⟨r, hscope, hr⟩ := repeated_reachable hp (le_refl 4)
  have hs : (evaluationSystem pendingClosures (duplexRuntime none) (fun _ => "") {"echo"} .empty
      echoInvocation).Reachable ⟨.tracked, echoWorld, []⟩ :=
    .initial (initial_tracked _ _ _ echoWorld)
  have hreported := overflow_reported pendingClosures (duplexRuntime none) (fun _ => "") {"echo"}
    .empty echoInvocation ⟨(), true⟩ rfl rfl rfl _ hs .tracked (fun _ => by decide) r hscope
    ⟨"node-1", 0, some 0, 1⟩ (by rw [hr]; rfl) 4 payload (by rw [hr]; exact overflow_repeated hp)
  obtain ⟨⟨s', hrun, hdone⟩, -⟩ := hreported.1 rfl
  exact ⟨_, s', rfl, hrun, hdone⟩

/-- A runtime whose policy is asked and does not answer. -/
theorem pending_reachable : (evaluationSystem pendingClosures (duplexRuntime (some ()))
    (fun _ => "") {"echo"} .empty echoInvocation).Reachable
      ⟨.admitting ⟨(), true⟩ () () 1 (some 999999) (some 1000000), echoWorld,
        [.resolved 1 (some 999999), .policyCalled () echoWorld]⟩ := by
  have hasked : (pendingClosures.admission ()).Call echoInvocation echoWorld [] (some ())
      echoWorld := ⟨rfl, rfl, rfl⟩
  have hawaited : (pendingClosures.admission ()).Poll () echoWorld [] .pending () echoWorld :=
    ⟨rfl, rfl, rfl⟩
  have hlimit : (duplexRuntime (some ())).resolveTimeout echoInvocation 1 =
      some (some 999999) := rfl
  have hwaits : admissionOutcome (duplexRuntime (some ())) 1 (some 999999) (some 1000000)
      echoWorld .pending = none := by
    rw [admissionOutcome]
    exact if_neg (by decide)
  have hpoll : EvaluationPoll pendingClosures (duplexRuntime (some ())) (fun _ => "") {"echo"}
      echoInvocation .tracked echoWorld [.resolved 1 (some 999999), .policyCalled () echoWorld] []
      (.admitting ⟨(), true⟩ () () 1 (some 999999) (some 1000000)) echoWorld :=
    .guarded rfl rfl hlimit rfl hasked (.pending .pending rfl hawaited hwaits)
  exact (System.Reachable.initial (initial_tracked _ _ _ echoWorld)).step (.poll hpoll)

/-- The fifth frame while the policy is asked makes the evaluation end as if it had been
cancelled. -/
theorem not_overflow_reported :
    ¬ ∀ s : EvaluationRun pendingClosures, (evaluationSystem pendingClosures
        (duplexRuntime (some ())) (fun _ => "") {"echo"} .empty echoInvocation).Reachable s →
      s.phase.Unresolved → ∀ r, activeSystem.Reachable r → ∀ e,
      r.scope.inner.lookup "invoke-1" = some e →
      ∀ payload, (r.scope.input "invoke-1" "node-1" 4 payload).1 = .overflow → ∀ s' result,
      (keptSystem pendingClosures (duplexRuntime (some ())) (fun _ => "") {"echo"} .empty
        echoInvocation).Run
          (s.routed r.scope e (.invocationInput "invoke-1" "node-1" 4 payload)) s' →
      s'.phase = .done result → result = inputBufferOverflow ∧ s'.world.cancelled = true := by
  intro h
  obtain ⟨payload, hp⟩ : ∃ payload, (Text.utf8 payload).length = 16384 := ⟨_, length_frame _⟩
  obtain ⟨r, hscope, hr⟩ := repeated_reachable hp (le_refl 4)
  have hentry : r.scope.inner.lookup "invoke-1" = some ⟨"node-1", 0, some 0, 1⟩ := by
    rw [hr]
    rfl
  have hfull : (r.scope.input "invoke-1" "node-1" 4 payload).1 = .overflow := by
    rw [hr]
    exact overflow_repeated hp
  have hcallable : ∀ policy ∈ (duplexRuntime (some ())).admissionPolicy,
      Callable pendingClosures echoInvocation policy :=
    fun _ _ w hcancelled => ⟨[], (), w, ⟨rfl, rfl, rfl⟩, hcancelled⟩
  have hoverflown := overflown_route (w := echoWorld)
    (entriesMade_reachable hscope "invoke-1" _ hentry) hentry hfull
  let s₁ : EvaluationRun pendingClosures :=
    ⟨.admitting ⟨(), true⟩ () () 1 (some 999999) (some 1000000), echoWorld.observe
      (routeInvocationControl r.scope (.invocationInput "invoke-1" "node-1" 4 payload))
      ⟨"node-1", 0, some 0, 1⟩, [.resolved 1 (some 999999), .policyCalled () echoWorld]⟩
  have hends : ∃ s', (keptSystem pendingClosures (duplexRuntime (some ())) (fun _ => "") {"echo"}
      .empty echoInvocation).Run s₁ s' ∧ s'.phase = .done cancelledDuringAdmission :=
    @admission_misreports _ _ _ _ _ _ _ _ _ _ ⟨(), true⟩ s₁ rfl rfl hcallable .admitting nofun id
      hoverflown
  obtain ⟨s', hrun, hdone⟩ := hends
  obtain ⟨hresult, -⟩ :=
    h _ pending_reachable .admitting r hscope _ hentry payload hfull s' _ hrun hdone
  injection hresult with hcode
  exact absurd hcode (by decide)

end OpenclawNode.Node
