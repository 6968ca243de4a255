import OpenclawNode.Node.RuntimeAccounting

/-! How a run is torn down: its tasks end, its permits are back, its invocations are cancelled. -/
namespace OpenclawNode.Node

open Transition (System)

namespace ActiveInvocations

variable {m k l : ActiveInvocations} {token : Token}

def Cancelled (m : ActiveInvocations) (token : Token) : Prop := m.tokens[token]? = some true

/-- The token of every entry was made. -/
def TokensMade (m : ActiveInvocations) : Prop :=
  ∀ id e, m.inner.lookup id = some e → e.cancellation < m.tokens.length

/-- Tokens are made and stay cancelled, and new entries hold tokens that were made. -/
structure Extends (m k : ActiveInvocations) : Prop where
  cancelled : ∀ token, m.Cancelled token → k.Cancelled token
  length : m.tokens.length ≤ k.tokens.length
  entries : ∀ id e, k.inner.lookup id = some e →
    m.inner.lookup id = some e ∨ e.cancellation < k.tokens.length

theorem Extends.of_eq (hinner : k.inner = m.inner) (htokens : k.tokens = m.tokens) :
    m.Extends k where
  cancelled token ht := by rwa [Cancelled, htokens]
  length := by rw [htokens]
  entries id e he := by
    rw [hinner] at he
    exact Or.inl he

theorem Extends.refl (m : ActiveInvocations) : m.Extends m := .of_eq rfl rfl

theorem Extends.trans (h : m.Extends k) (h' : k.Extends l) : m.Extends l where
  cancelled token ht := h'.cancelled token (h.cancelled token ht)
  length := h.length.trans h'.length
  entries id e he := by
    rcases h'.entries id e he with he | he
    · rcases h.entries id e he with he | he
      · exact Or.inl he
      · exact Or.inr (Nat.lt_of_lt_of_le he h'.length)
    · exact Or.inr he

theorem Extends.tokensMade (h : m.Extends k) (hm : m.TokensMade) : k.TokensMade := by
  intro id e he
  rcases h.entries id e he with he | he
  · exact Nat.lt_of_lt_of_le (hm id e he) h.length
  · exact he

theorem cancelled_cancelToken (ht : token < m.tokens.length) :
    (m.cancelToken token).Cancelled token := by
  simp [Cancelled, cancelToken, ht]

theorem extends_cancelToken (m : ActiveInvocations) (token : Token) :
    m.Extends (m.cancelToken token) where
  cancelled other ho := by
    by_cases he : token = other
    · subst he
      obtain ⟨hlt, -⟩ := List.getElem?_eq_some_iff.mp ho
      exact cancelled_cancelToken hlt
    · rw [Cancelled, cancelToken, List.getElem?_set_ne he]
      exact ho
  length := (m.length_tokens_cancelToken token).ge
  entries _ _ he := Or.inl he

theorem extends_closeInput (m : ActiveInvocations) (address : Option Nat) :
    m.Extends (m.closeInput address) :=
  .of_eq (m.inner_closeInput address) (m.tokens_closeInput address)

theorem extends_newToken (m : ActiveInvocations) : m.Extends m.newToken.2 where
  cancelled token ht := by
    obtain ⟨hlt, -⟩ := List.getElem?_eq_some_iff.mp ht
    rw [Cancelled, newToken, List.getElem?_append_left hlt]
    exact ht
  length := by simp [newToken]
  entries _ _ he := Or.inl he

theorem extends_untrack (m : ActiveInvocations) (id : String) : m.Extends (m.untrack id) where
  cancelled token ht := by
    rw [untrack, Cancelled, tokens_closeInput]
    exact ht
  length := by simp [untrack]
  entries other e he := by
    rw [untrack, inner_closeInput] at he
    by_cases ho : other = id
    · rw [ho, AList.lookup_erase] at he
      cases he
    · rw [AList.lookup_erase_ne ho] at he
      exact Or.inl he

theorem extends_track {cancellation : Token} (id nodeId : String) (duplex : Bool)
    (ht : cancellation < m.tokens.length) :
    m.Extends (m.track id nodeId cancellation duplex).2 := by
  unfold track
  split
  · exact .refl m
  · refine ⟨(extends_newToken m).cancelled, (extends_newToken m).length, ?_⟩
    intro other e he
    by_cases ho : other = id
    · rw [ho, AList.lookup_insert] at he
      cases he
      exact Or.inr (Nat.lt_of_lt_of_le ht (extends_newToken m).length)
    · rw [AList.lookup_insert_ne ho] at he
      exact Or.inl he

theorem extends_cancel (m : ActiveInvocations) (id : String) : m.Extends (m.cancel id) := by
  unfold cancel
  split
  · exact .refl m
  · exact (extends_cancelToken m _).trans (extends_closeInput _ _)

theorem extends_input (m : ActiveInvocations) (id nodeId : String) (seq : UInt64)
    (payload : String) : m.Extends (m.input id nodeId seq payload).2 := by
  unfold input
  split
  · exact .refl m
  · split
    · exact .refl m
    · split
      · exact .refl m
      · split
        · exact .refl m
        · have hbuffers : ∀ buffers, m.Extends { m with buffers } := fun _ => .of_eq rfl rfl
          dsimp only
          split
          · exact (hbuffers _).trans (extends_cancelToken _ _)
          · exact hbuffers _

/-- Cancelling the tokens of entries, one after the other. -/
theorem cancelEntries (entries : List ((_ : String) × ActiveInvocationState))
    (k : ActiveInvocations) :
    let k' := entries.foldl
      (fun k entry => (k.cancelToken entry.2.cancellation).closeInput entry.2.input) k
    k.Extends k' ∧ ∀ entry ∈ entries, entry.2.cancellation < k.tokens.length →
      k'.Cancelled entry.2.cancellation := by
  induction entries generalizing k with
  | nil => exact ⟨.refl k, fun _ h => nomatch h⟩
  | cons entry entries ih =>
    obtain ⟨hextends, hcancelled⟩ :=
      ih ((k.cancelToken entry.2.cancellation).closeInput entry.2.input)
    have hfirst := extends_cancelToken k entry.2.cancellation
    have hclose := extends_closeInput (k.cancelToken entry.2.cancellation) entry.2.input
    refine ⟨(hfirst.trans hclose).trans hextends, ?_⟩
    intro other ho hlt
    rcases List.mem_cons.mp ho with rfl | ho
    · exact hextends.cancelled _ (hclose.cancelled _ (cancelled_cancelToken hlt))
    · exact hcancelled other ho (Nat.lt_of_lt_of_le hlt (hfirst.trans hclose).length)

theorem extends_cancelAll (m : ActiveInvocations) : m.Extends m.cancelAll := by
  have hempty : m.Extends { m with inner := ∅ } := by
    refine ⟨fun _ ht => ht, le_refl _, ?_⟩
    intro id e he
    rw [AList.lookup_empty] at he
    cases he
  exact hempty.trans (cancelEntries m.inner.entries _).1

/-- `cancel_all` cancels whatever is tracked. -/
theorem cancelled_cancelAll (hm : m.TokensMade) :
    ∀ entry ∈ m.inner.entries, m.cancelAll.Cancelled entry.2.cancellation := by
  intro entry he
  refine (cancelEntries m.inner.entries { m with inner := ∅ }).2 entry he ?_
  exact hm entry.1 entry.2 (AList.mem_lookup_iff.mpr he)

theorem extends_dropGuard (m : ActiveInvocations) (g : ActiveInvocation) :
    m.Extends (m.dropGuard g) := by
  unfold dropGuard
  split
  · exact (extends_cancelToken m _).trans (extends_untrack _ _)
  · exact extends_untrack m _

/-- An armed guard cancels its token. -/
theorem cancelled_dropGuard {g : ActiveInvocation} (hg : g.cancelOnDrop = true)
    (ht : g.cancellation < m.tokens.length) : (m.dropGuard g).Cancelled g.cancellation := by
  rw [dropGuard, if_pos hg]
  exact (extends_untrack _ _).cancelled _ (cancelled_cancelToken ht)

end ActiveInvocations

open ActiveInvocations

variable {H P : Type} {runtime : CommandRuntime H P} {w w' : RuntimeRun} {a : RuntimeAction}

theorem extends_routeInvocationControl (m : ActiveInvocations) (event : NodeSessionEvent) :
    m.Extends (routeInvocationControl m event) := by
  unfold routeInvocationControl
  split
  · dsimp only
    split
    · exact (extends_input m _ _ _ _).trans (extends_cancel _ _)
    · exact extends_input m _ _ _ _
  · exact extends_cancel m _
  · exact .refl m

theorem ScopeCall.extends {m k : ActiveInvocations} (h : ScopeCall m k) : m.Extends k := by
  cases h with
  | newToken => exact extends_newToken m
  | track id nodeId cancellation duplex ht => exact extends_track id nodeId duplex ht
  | cancel id => exact extends_cancel m id
  | input id nodeId seq payload => exact extends_input m id nodeId seq payload
  | dropGuard g => exact extends_dropGuard m g
  | cancelAll => exact extends_cancelAll m
  | cancelToken token => exact extends_cancelToken m token
  | buffers buffers => exact .of_eq rfl rfl

/-- A live task holds this guard, for this invocation. -/
def Guarded (tasks : List HandlerTask) (e : Nat) (g : ActiveInvocation) : Prop :=
  ∃ t ∈ tasks, t.live = true ∧ t.event = e ∧ t.guarded = some g

section

variable {before after : List HandlerTask} {t : HandlerTask} {e : Nat} {g : ActiveInvocation}

theorem guarded_middle : Guarded (before ++ t :: after) e g ↔
    Guarded (before ++ after) e g ∨ t.live = true ∧ t.event = e ∧ t.guarded = some g := by
  constructor
  · rintro ⟨s, hs, hg⟩
    rcases List.mem_append.mp hs with hs | hs
    · exact Or.inl ⟨s, List.mem_append_left _ hs, hg⟩
    · rcases List.mem_cons.mp hs with rfl | hs
      · exact Or.inr hg
      · exact Or.inl ⟨s, List.mem_append_right _ hs, hg⟩
  · rintro (⟨s, hs, hg⟩ | hg)
    · rcases List.mem_append.mp hs with hs | hs
      · exact ⟨s, List.mem_append_left _ hs, hg⟩
      · exact ⟨s, List.mem_append_right _ (List.mem_cons_of_mem _ hs), hg⟩
    · exact ⟨t, List.mem_append_right _ List.mem_cons_self, hg⟩

theorem guarded_snoc {tasks : List HandlerTask} : Guarded (tasks ++ [t]) e g ↔
    Guarded tasks e g ∨ t.live = true ∧ t.event = e ∧ t.guarded = some g := by
  rw [guarded_middle, List.append_nil]

/-- A task that has ended holds no guard. -/
theorem guarded_ended {outcome : TaskOutcome} (hp : t.phase = .ended outcome) :
    Guarded (before ++ t :: after) e g ↔ Guarded (before ++ after) e g := by
  have hl : t.live = false := by simp [HandlerTask.live, hp]
  rw [guarded_middle, hl]
  simp

end

/-- The tokens that a run is answerable for: those of its live tasks are guarded, those of the
others were cancelled unless the result was delivered, and so were those that were tracked when it
began to stop. -/
structure RuntimeRun.TokensKept (w : RuntimeRun) : Prop where
  made : w.active.TokensMade
  armed : ∀ e g, Guarded w.tasks e g →
    g.cancelOnDrop = true ∧ g.cancellation < w.active.tokens.length
  tracked : ∀ e token, (e, token) ∈ w.tracked → e ∈ w.completed ∨ w.active.Cancelled token ∨
    ∃ g, Guarded w.tasks e g ∧ g.cancellation = token
  stopped : ∀ token ∈ w.stopped, w.active.Cancelled token

namespace RuntimeRun.TokensKept

/-- A step that only lets go of guards, of those whose token is cancelled or whose result is
delivered. -/
theorem frame (h : w.TokensKept) (ha : w.active.Extends w'.active)
    (hback : ∀ e g, Guarded w'.tasks e g → Guarded w.tasks e g)
    (hkeep : ∀ e g, Guarded w.tasks e g → Guarded w'.tasks e g ∨ e ∈ w'.completed ∨
      w'.active.Cancelled g.cancellation)
    (hcompleted : w.completed ⊆ w'.completed) (htracked : w'.tracked = w.tracked)
    (hstopped : ∀ token ∈ w'.stopped, token ∈ w.stopped ∨ w'.active.Cancelled token) :
    w'.TokensKept where
  made := ha.tokensMade h.made
  armed e g hg := by
    obtain ⟨harmed, hlt⟩ := h.armed e g (hback e g hg)
    exact ⟨harmed, Nat.lt_of_lt_of_le hlt ha.length⟩
  tracked e token ht := by
    rw [htracked] at ht
    rcases h.tracked e token ht with hc | hc | ⟨g, hg, rfl⟩
    · exact Or.inl (hcompleted hc)
    · exact Or.inr (Or.inl (ha.cancelled _ hc))
    · rcases hkeep e g hg with hg | hc | hc
      · exact Or.inr (Or.inr ⟨g, hg, rfl⟩)
      · exact Or.inl hc
      · exact Or.inr (Or.inl hc)
  stopped token ht := by
    rcases hstopped token ht with ht | hc
    · exact ha.cancelled _ (h.stopped token ht)
    · exact hc

/-- Tasks, records and what stopped stay as they are. -/
theorem quiet (h : w.TokensKept) (ha : w.active.Extends w'.active) (htasks : w'.tasks = w.tasks)
    (hcompleted : w.completed ⊆ w'.completed) (htracked : w'.tracked = w.tracked)
    (hstopped : w'.stopped = w.stopped) : w'.TokensKept := by
  refine h.frame ha ?_ ?_ hcompleted htracked ?_
  · intro e g hg
    rwa [htasks] at hg
  · intro e g hg
    rw [htasks]
    exact Or.inl hg
  · intro token ht
    rw [hstopped] at ht
    exact Or.inl ht

theorem stop (h : w.TokensKept) (error : RuntimeError) : (w.stop error).TokensKept := by
  refine h.frame (extends_cancelAll w.active) (fun _ _ hg => hg) (fun _ _ hg => Or.inl hg)
    (fun _ he => he) rfl ?_
  intro token ht
  obtain ⟨entry, he, rfl⟩ := List.mem_map.mp ht
  exact Or.inr (cancelled_cancelAll h.made entry he)

end RuntimeRun.TokensKept

/-- A new task guards the token of its own that its invocation is tracked with. -/
theorem tokensKept_spawn {invocation : NodeInvocation} {event : Nat} (h : w.TokensKept) :
    (w.spawnHandlerTask runtime invocation event).TokensKept := by
  generalize hd : (runtime.handlers.lookup invocation.command).any (·.duplex) = duplex
  obtain ⟨guarded, active, ht⟩ : ∃ guarded active, w.active.newToken.2.track invocation.id
      invocation.nodeId w.active.tokens.length duplex = (guarded, active) := ⟨_, _, rfl⟩
  have hspawn : w.spawnHandlerTask runtime invocation event = { w with
      active
      tasks := w.tasks ++ [⟨event, guarded, .evaluating⟩]
      tracked := w.tracked ++ (guarded.map fun g => (event, g.cancellation)).toList } := by
    simp only [RuntimeRun.spawnHandlerTask, hd, ActiveInvocations.newToken] at ht ⊢
    rw [ht]
  have hmade : w.active.tokens.length < w.active.newToken.2.tokens.length := by
    simp [ActiveInvocations.newToken]
  have htrack : w.active.newToken.2.Extends active := by
    have h := extends_track invocation.id invocation.nodeId duplex hmade
    rwa [ht] at h
  have hextends : w.active.Extends active := (extends_newToken w.active).trans htrack
  have hguard : ∀ g, guarded = some g →
      g.cancelOnDrop = true ∧ g.cancellation < active.tokens.length := by
    rintro g rfl
    have hlt := Nat.lt_of_lt_of_le hmade htrack.length
    unfold ActiveInvocations.track at ht
    split at ht
    · cases ht
    · cases ht
      exact ⟨rfl, hlt⟩
  rw [hspawn]
  refine ⟨hextends.tokensMade h.made, ?_, ?_, ?_⟩
  · intro e g hg
    rcases guarded_snoc.mp hg with hg | ⟨-, -, hg⟩
    · obtain ⟨harmed, hlt⟩ := h.armed e g hg
      exact ⟨harmed, Nat.lt_of_lt_of_le hlt hextends.length⟩
    · exact hguard g hg
  · intro e token hmem
    rcases List.mem_append.mp hmem with hmem | hmem
    · rcases h.tracked e token hmem with hc | hc | ⟨g, hg, hgt⟩
      · exact Or.inl hc
      · exact Or.inr (Or.inl (hextends.cancelled _ hc))
      · exact Or.inr (Or.inr ⟨g, guarded_snoc.mpr (Or.inl hg), hgt⟩)
    · cases guarded with
      | none => cases hmem
      | some g =>
        cases List.mem_singleton.mp hmem
        exact Or.inr (Or.inr ⟨g, guarded_snoc.mpr (Or.inr ⟨rfl, rfl, rfl⟩), rfl⟩)
  · exact fun token hs => hextends.cancelled _ (h.stopped token hs)

theorem tokensKept_loop (hs : LoopEvent runtime w w') (h : w.TokensKept) : w'.TokensKept := by
  have hreceive : ∀ event rest, (w.receive event rest).TokensKept := fun _ _ =>
    h.quiet (.refl _) rfl (fun _ he => he) rfl rfl
  cases hs with
  | ignored _ => exact hreceive _ _
  | invalid error _ => exact (hreceive _ _).stop _
  | control event _ _ =>
    exact h.quiet (extends_routeInvocationControl _ event) rfl (fun _ he => he) rfl rfl
  | spawn invocation free _ _ =>
    refine tokensKept_spawn ?_
    exact h.quiet (.refl _) rfl (fun _ he => he) rfl rfl
  | overload invocation _ _ _ _ => exact h.quiet (.refl _) rfl (fun _ he => he) rfl rfl
  | saturated invocation _ _ _ _ | undeliverable invocation error _ _ _ =>
    refine RuntimeRun.TokensKept.stop ?_ _
    exact h.quiet (.refl _) rfl (fun _ he => he) rfl rfl

theorem RuntimeRun.TokensKept.dropGuard (h : w.TokensKept) (g : Option ActiveInvocation) :
    (w.dropGuard g).TokensKept := by
  cases g with
  | none => exact h
  | some g => exact h.quiet (extends_dropGuard _ g) rfl (fun _ he => he) rfl rfl

/-- A task that ends without a result delivered cancels the token it guards. -/
theorem tokensKept_task {before after : List HandlerTask} {t : HandlerTask}
    (hs : TaskStep w before after t w') (ht : w.tasks = before ++ t :: after)
    (h : w.TokensKept) : w'.TokensKept := by
  -- What the task guarded is cancelled as it ends, or no longer matters.
  have hended : ∀ (outcome : TaskOutcome) (free : Nat) (completed dropped : List Nat)
      (guarded : Option ActiveInvocation), w.completed ⊆ completed →
      (t.event ∈ completed ∨ guarded = t.guarded) →
      (RuntimeRun.dropGuard { w with
        tasks := before ++ { t with phase := .ended outcome } :: after
        free, completed, dropped } guarded).TokensKept := by
    intro outcome free completed dropped guarded hsub hguarded
    have hafter : ∀ e g,
        Guarded (before ++ { t with phase := .ended outcome } :: after) e g ↔
          Guarded (before ++ after) e g := fun e g => guarded_ended rfl
    have htasks : (RuntimeRun.dropGuard { w with
        tasks := before ++ { t with phase := .ended outcome } :: after
        free, completed, dropped } guarded).tasks =
          before ++ { t with phase := .ended outcome } :: after := by
      cases guarded <;> rfl
    refine h.frame ?_ ?_ ?_ ?_ ?_ ?_
    · cases guarded with
      | none => exact .refl _
      | some g => exact extends_dropGuard _ g
    · intro e g hg
      rw [htasks, hafter] at hg
      rw [ht, guarded_middle]
      exact Or.inl hg
    · intro e g hg
      have harmed := h.armed e g hg
      rw [ht, guarded_middle] at hg
      rcases hg with hg | ⟨-, he, hg⟩
      · rw [htasks, hafter]
        exact Or.inl hg
      · rcases hguarded with hc | rfl
        · right; left
          rw [he] at hc
          cases guarded <;> exact hc
        · rw [hg]
          exact Or.inr (Or.inr (cancelled_dropGuard harmed.1 harmed.2))
    · cases guarded <;> exact hsub
    · cases guarded <;> rfl
    · intro token hs
      left
      cases guarded <;> exact hs
  cases hs with
  | request hp =>
    have hl : t.live = true := by simp [HandlerTask.live, hp]
    have hsame : ∀ e g, Guarded (before ++ { t with phase := .completing } :: after) e g ↔
        Guarded w.tasks e g := by
      intro e g
      rw [ht, guarded_middle, guarded_middle, hl]
      rfl
    exact h.frame (.refl _) (fun e g hg => (hsame e g).mp hg)
      (fun e g hg => Or.inl ((hsame e g).mpr hg)) (fun _ he => he) rfl (fun _ hs => Or.inl hs)
  | completed _ =>
    refine hended .completed w.free (w.completed ++ [t.event]) w.dropped _ ?_ (Or.inl ?_)
    · exact List.subset_append_left _ _
    · exact List.mem_append_right _ List.mem_cons_self
  | refused error _ | failed error _ | gone reason _ =>
    exact hended _ _ w.completed _ t.guarded (fun _ he => he) (Or.inr rfl)

theorem tokensKept_worker (hs : WorkerStep w w') (h : w.TokensKept) : w'.TokensKept := by
  cases hs with
  | completed _ =>
    exact h.quiet (.refl _) rfl (List.subset_append_left _ _) rfl rfl
  | recv _ _ | request _ | ended _ _ => exact h.quiet (.refl _) rfl (fun _ he => he) rfl rfl

/-- The output of a task that has ended is taken. -/
theorem RuntimeRun.TokensKept.joins {before after : List HandlerTask} {t : HandlerTask}
    {outcome : TaskOutcome} (h : w.TokensKept) (ht : w.tasks = before ++ t :: after)
    (hp : t.phase = .ended outcome) (free kept : Nat) :
    RuntimeRun.TokensKept { w with tasks := before ++ after, free, kept } := by
  have hsame : ∀ e g, Guarded w.tasks e g ↔ Guarded (before ++ after) e g := by
    intro e g
    rw [ht]
    exact guarded_ended hp
  exact h.frame (.refl _) (fun e g hg => (hsame e g).mpr hg)
    (fun e g hg => Or.inl ((hsame e g).mp hg)) (fun _ he => he) rfl (fun _ hs => Or.inl hs)

theorem tokensKept_step (hs : RuntimeStep runtime w a w') (h : w.TokensKept) : w'.TokensKept := by
  cases hs with
  | publish _ | poll _ _ _ | outsideTakes _ _ | outsideReturns _ _ | finish _ _ _ =>
    exact h.quiet (.refl _) rfl (fun _ he => he) rfl rfl
  | outsideCalls hc => exact h.quiet hc.extends rfl (fun _ he => he) rfl rfl
  | event _ hl => exact tokensKept_loop hl h
  | closed error _ | workerEnded error _ _ => exact h.stop _
  | task before after ht hs => exact tokensKept_task hs ht h
  | worker hs => exact tokensKept_worker hs h
  | join before after _ ht hp _ =>
    exact (h.joins ht hp w.free w.kept).quiet (.refl _) rfl (fun _ he => he) rfl rfl
  | joinStopped before after _ ht hp => exact h.joins ht hp _ _
  | joinFailed before after _ ht hp _ => exact (h.joins ht hp w.free _).stop _

theorem tokensKept_reachable (hw : (runtimeSystem runtime).Reachable w) : w.TokensKept := by
  refine hw.invariant (P := RuntimeRun.TokensKept) ?_ (fun _ _ _ hs h => tokensKept_step hs h)
  rintro w ⟨-, hmade, he⟩
  rw [he]
  exact ⟨hmade, (fun _ _ hg => by obtain ⟨t, ht, -⟩ := hg; cases ht), (fun _ _ h => nomatch h),
    fun _ h => nomatch h⟩

/-- Once `run` has returned, it has neither tasks nor permits left. -/
def RuntimeRun.TornDown (w : RuntimeRun) : Prop :=
  w.tasks = [] ∧ w.kept = 0 ∧ ∃ outcome, w.worker = .ended outcome

theorem phase_task {before after : List HandlerTask} {t : HandlerTask}
    (hs : TaskStep w before after t w') : w'.phase = w.phase := by
  have hdrop : ∀ (u : RuntimeRun) g, (u.dropGuard g).phase = u.phase := by
    intro u g
    cases g <;> rfl
  cases hs <;> first | rfl | exact hdrop _ _

theorem phase_loop {error : RuntimeError} (hs : LoopEvent runtime w w') (hl : w.phase = .looping) :
    w'.phase ≠ .returned error := by
  intro hr
  cases hs with
  | invalid _ _ | saturated _ _ _ _ _ | undeliverable _ _ _ _ _ => cases hr
  | ignored _ | control _ _ _ | spawn _ _ _ _ | overload _ _ _ _ _ => cases hl.symm.trans hr

theorem tornDown_step (hs : RuntimeStep runtime w a w')
    (h : ∀ error, w.phase = .returned error → w.TornDown) :
    ∀ error, w'.phase = .returned error → w'.TornDown := by
  intro error hr
  cases hs with
  | publish _ | poll _ _ _ | outsideTakes _ _ | outsideReturns _ _ | outsideCalls _ =>
    exact h error hr
  | event hl hs => exact absurd hr (phase_loop hs hl)
  | closed _ _ | workerEnded _ _ _ | joinFailed _ _ _ _ _ _ => cases hr
  | task before after ht hs =>
    rw [phase_task hs] at hr
    obtain ⟨hnil, -, -⟩ := h error hr
    rw [ht] at hnil
    exact absurd hnil (List.append_ne_nil_of_right_ne_nil _ (List.cons_ne_nil _ _))
  | worker hs =>
    have hphase : w'.phase = w.phase := by cases hs <;> rfl
    rw [hphase] at hr
    obtain ⟨-, -, outcome, hw⟩ := h error hr
    cases hs with
    | recv hi _ | request hi | completed hi =>
      rw [hw] at hi
      cases hi
    | ended _ hlive => exact absurd hw (hlive outcome)
  | join _ _ hl _ _ _ => cases hl.symm.trans hr
  | joinStopped _ _ hl _ _ => cases hl.symm.trans hr
  | @finish outcome _ _ ht hw => exact ⟨ht, rfl, outcome, hw⟩

theorem tornDown_reachable {error : RuntimeError} (hw : (runtimeSystem runtime).Reachable w)
    (hr : w.phase = .returned error) : w.TornDown := by
  refine hw.invariant (P := fun w => ∀ error, w.phase = .returned error → w.TornDown) ?_
    (fun _ _ _ hs h => tornDown_step hs h) error hr
  rintro w ⟨-, -, he⟩ error hr
  rw [he] at hr
  cases hr

/-- What `run` leaves behind when it returns. -/
structure RuntimeRun.LeavesNothing (w : RuntimeRun) (n : Nat) : Prop where
  tasks : w.tasks = []
  permits : w.free + w.others = n
  stopped : ∀ token ∈ w.stopped, w.active.Cancelled token
  tracked : ∀ e token, (e, token) ∈ w.tracked → e ∈ w.completed ∨ w.active.Cancelled token

theorem leavesNothing_reachable {error : RuntimeError} (hw : (runtimeSystem runtime).Reachable w)
    (hr : w.phase = .returned error) : w.LeavesNothing runtime.permits := by
  obtain ⟨htasks, hkept, -⟩ := tornDown_reachable hw hr
  have htokens := tokensKept_reachable hw
  have hpermits := (accounts_run_reachable hw).permits
  rw [RuntimeRun.holders, htasks, hkept, List.countP_nil] at hpermits
  refine ⟨htasks, hpermits, htokens.stopped, ?_⟩
  intro e token ht
  rcases htokens.tracked e token ht with hc | hc | ⟨g, ⟨t, hmem, -⟩, -⟩
  · exact Or.inl hc
  · exact Or.inr hc
  · rw [htasks] at hmem
    cases hmem

end OpenclawNode.Node
