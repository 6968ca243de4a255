import OpenclawNode.Node.RuntimeTeardown

/-! A driver and the runs of its attempts: the next attempt begins after the last run has returned. -/
namespace OpenclawNode.Node

open Transition (System)

/-- What the driver is told of the error that `run` returns. -/
def RuntimeError.result : RuntimeError → RuntimeResult
  | .client error => .client error
  | .deliverySaturated => .deliverySaturated
  | .resultTask _ => .resultTask

/-- A driver with the runs that it started, the last one first. -/
structure Attempts (Policy : Type) where
  driver : LifecycleRun Policy
  runs : List RuntimeRun

/-- A step of the driver that neither starts a run nor learns of the end of one. -/
def LifecycleAction.alone : LifecycleAction → Bool
  | .connected _ | .runtime _ => false
  | _ => true

section

variable {H P Policy : Type} (rules : ReconnectRules Policy) (delays : LifecycleDelays)
  (runtime : CommandRuntime H P)

/-- The driver and its runs take steps in any order. A connected session is run, and the driver
awaits that run. -/
inductive AttemptStep : Attempts Policy → Option LifecycleAction → Attempts Policy → Prop
  | connected {s} (polled : Bool) (session : ConnectedSession) (w : RuntimeRun) :
      s.driver.phase = .connecting → w.Initial runtime →
      AttemptStep s (some (.connected session))
        ⟨(s.driver.won polled).onConnected rules session, w :: s.runs⟩
  | returned {s w runs error} (polled : Bool) : s.driver.phase = .running → s.runs = w :: runs →
      w.phase = .returned error →
      AttemptStep s (some (.runtime error.result))
        ⟨(s.driver.won polled).onRuntimeResult rules delays error.result, s.runs⟩
  | driver {s a driver} : a.alone = true → LifecycleStep rules delays s.driver a driver →
      AttemptStep s (some a) { s with driver }
  | run {s w w' a} (before after : List RuntimeRun) : s.runs = before ++ w :: after →
      RuntimeStep runtime w a w' → AttemptStep s none { s with runs := before ++ w' :: after }

def attemptSystem : System (Attempts Policy) (Option LifecycleAction) where
  Initial s := (lifecycleSystem rules delays).Initial s.driver ∧ s.runs = []
  Step := AttemptStep rules delays runtime

end

/-- The driver is between two runs. -/
def LifecyclePhase.between : LifecyclePhase → Prop
  | .starting | .connecting | .backingOff _ => True
  | _ => False

def RuntimeRun.Returned (w : RuntimeRun) : Prop := ∃ error, w.phase = .returned error

/-- Only the run that the driver awaits may not have returned. -/
structure Attempts.Sequential {Policy : Type} (s : Attempts Policy) : Prop where
  earlier : ∀ w ∈ s.runs.tail, w.Returned
  between : s.driver.phase.between → ∀ w ∈ s.runs, w.Returned

variable {H P Policy : Type} {rules : ReconnectRules Policy} {delays : LifecycleDelays}
  {runtime : CommandRuntime H P} {s s' : Attempts Policy} {a : Option LifecycleAction}

theorem returned_step {w w' : RuntimeRun} {a : RuntimeAction} (hs : RuntimeStep runtime w a w')
    (h : w.Returned) : w'.Returned := by
  obtain ⟨error, hr⟩ := h
  cases hs with
  | publish _ | outsideTakes _ _ | outsideReturns _ _ | outsideCalls _ => exact ⟨error, hr⟩
  | poll _ hl _ | closed _ hl | event hl _ | workerEnded _ hl _ => cases hl.symm.trans hr
  | join _ _ hl _ _ _ | joinFailed _ _ hl _ _ _ => cases hl.symm.trans hr
  | joinStopped _ _ hl _ _ | finish hl _ _ => cases hl.symm.trans hr
  | task before after _ hs => exact ⟨error, (phase_task hs).trans hr⟩
  | worker hs => cases hs <;> exact ⟨error, hr⟩

/-- On its own the driver does not get from a run to the time between two. -/
theorem between_driver {s s' : LifecycleRun Policy} {a : LifecycleAction}
    (hs : LifecycleStep rules delays s a s') (ha : a.alone = true) (hb : s'.phase.between) :
    s.phase.between := by
  cases hs with
  | begin h | connectShutdown h | connectFailed _ _ h | backoffShutdown h | delayElapsed _ h =>
    rw [h]
    trivial
  | pending _ => exact hb
  | connected _ _ _ | runtime _ _ _ => cases ha
  | runShutdown _ | drained _ _ => cases hb

theorem sequential_step (hs : AttemptStep rules delays runtime s a s') (h : s.Sequential) :
    s'.Sequential := by
  cases hs with
  | connected polled session w hc hw =>
    refine ⟨h.between ?_, ?_⟩
    · rw [hc]
      trivial
    · intro hb
      cases hb
  | @returned w runs error polled hp hruns hr =>
    have hall : ∀ w ∈ s.runs, w.Returned := by
      intro w' hw
      have htail := h.earlier w'
      rw [hruns] at hw htail
      rcases List.mem_cons.mp hw with rfl | hw
      · exact ⟨error, hr⟩
      · exact htail hw
    exact ⟨h.earlier, fun _ => hall⟩
  | driver ha hs => exact ⟨h.earlier, fun hb => h.between (between_driver hs ha hb)⟩
  | @run w w' a before after hruns hs =>
    have hback : ∀ u ∈ before ++ w' :: after,
        (∀ v ∈ before ++ w :: after, v.Returned) → u.Returned := by
      intro u hu hall
      rcases List.mem_append.mp hu with hu | hu
      · exact hall u (List.mem_append_left _ hu)
      · rcases List.mem_cons.mp hu with rfl | hu
        · exact returned_step hs (hall w (List.mem_append_right _ List.mem_cons_self))
        · exact hall u (List.mem_append_right _ (List.mem_cons_of_mem _ hu))
    have hearlier := h.earlier
    have hbetween := h.between
    rw [hruns] at hearlier hbetween
    refine ⟨?_, fun hb u hu => hback u hu (hbetween hb)⟩
    cases before with
    | nil => exact hearlier
    | cons first before =>
      intro u hu
      rcases List.mem_append.mp hu with hu | hu
      · exact hearlier u (List.mem_append_left _ hu)
      · rcases List.mem_cons.mp hu with rfl | hu
        · exact returned_step hs (hearlier w (List.mem_append_right _ List.mem_cons_self))
        · exact hearlier u (List.mem_append_right _ (List.mem_cons_of_mem _ hu))

theorem sequential_reachable (hs : (attemptSystem rules delays runtime).Reachable s) :
    s.Sequential := by
  refine hs.invariant (P := Attempts.Sequential) ?_ (fun _ _ _ hs h => sequential_step hs h)
  rintro s ⟨-, hruns⟩
  constructor <;> simp [hruns]

/-- Every run of the driver is a run of the runtime. -/
theorem attempt_runs_reachable (hs : (attemptSystem rules delays runtime).Reachable s) :
    ∀ w ∈ s.runs, (runtimeSystem runtime).Reachable w := by
  refine hs.invariant (P := fun s => ∀ w ∈ s.runs, (runtimeSystem runtime).Reachable w) ?_ ?_
  · rintro s ⟨-, hruns⟩ w hw
    rw [hruns] at hw
    cases hw
  · intro s a s' hs h
    cases hs with
    | connected polled session w hc hw =>
      intro u hu
      rcases List.mem_cons.mp hu with rfl | hu
      · exact .initial hw
      · exact h u hu
    | returned _ _ _ _ | driver _ _ => exact h
    | @run w w' a before after hruns hs =>
      intro u hu
      rw [hruns] at h
      rcases List.mem_append.mp hu with hu | hu
      · exact h u (List.mem_append_left _ hu)
      · rcases List.mem_cons.mp hu with rfl | hu
        · exact (h w (List.mem_append_right _ List.mem_cons_self)).step hs
        · exact h u (List.mem_append_right _ (List.mem_cons_of_mem _ hu))

/-- An attempt begins when the runs of all earlier ones have returned and left nothing behind. -/
theorem begins_after_teardown (hs : (attemptSystem rules delays runtime).Reachable s)
    (hb : AttemptStep rules delays runtime s (some .begin) s') :
    ∀ w ∈ s.runs, w.Returned ∧ w.LeavesNothing runtime.permits := by
  have hstart : s.driver.phase.between := by
    cases hb with
    | driver _ hb =>
      cases hb with
      | begin h =>
        rw [h]
        trivial
  intro w hw
  obtain ⟨error, hr⟩ := (sequential_reachable hs).between hstart w hw
  exact ⟨⟨error, hr⟩, leavesNothing_reachable (attempt_runs_reachable hs w hw) hr⟩

/-- What holds of a run with `n` permits. -/
structure RuntimeRun.Accounted (w : RuntimeRun) (n : Nat) : Prop where
  places : ∀ e, w.placesOf e = if e < w.taken then 1 else 0
  undisturbed : w.Undisturbed → w.dropped = []
  owner : ∀ t ∈ w.tasks, t.live = true → t.holdsPermit = true
  permits : w.free + w.others + w.kept + w.holders = n
  handlers : w.tasks.countP HandlerTask.live ≤ n
  room : w.queue.length ≤ n
  requests : ∀ e, w.requests.count e ≤ if e < w.taken then 1 else 0
  offered : w.received ++ w.incoming = w.offered
  decoded : w.invocations = w.received.filterMap IncomingEvent.invocation
  returned : w.Returned → w.LeavesNothing n

theorem holdsPermit_of_live {t : HandlerTask} (h : t.live = true) : t.holdsPermit = true := by
  unfold HandlerTask.live at h
  unfold HandlerTask.holdsPermit
  split at h
  · cases h
  · next hp =>
    split
    · next hgone => exact absurd hgone (hp _)
    · rfl

theorem accounted_reachable {w : RuntimeRun} (hw : (runtimeSystem runtime).Reachable w) :
    w.Accounted runtime.permits := by
  have h := accounts_run_reachable hw
  have hlive : w.tasks.countP HandlerTask.live ≤ w.holders :=
    List.countP_mono_left fun t _ hl => holdsPermit_of_live hl
  have hpermits := h.permits
  refine ⟨h.places, nothing_dropped hw, fun t _ hl => holdsPermit_of_live hl, h.permits, ?_,
    h.room, ?_, offered_reachable hw, h.decoded, ?_⟩
  · omega
  · intro e
    have hsends := h.sends e
    unfold RuntimeRun.sendsOf at hsends
    omega
  · rintro ⟨error, hr⟩
    exact leavesNothing_reachable hw hr

/-- Every run accounts for what it takes and leaves nothing behind when it returns, and a driver
begins an attempt only then. -/
theorem runtime_run_accounting (rules : ReconnectRules Policy) (delays : LifecycleDelays)
    (runtime : CommandRuntime H P) :
    (∀ w, (runtimeSystem runtime).Reachable w → w.Accounted runtime.permits) ∧
    ∀ s s', (attemptSystem rules delays runtime).Reachable s →
      AttemptStep rules delays runtime s (some .begin) s' →
      ∀ w ∈ s.runs, w.Returned ∧ w.LeavesNothing runtime.permits :=
  ⟨fun _ hw => accounted_reachable hw, fun _ _ hs hb => begins_after_teardown hs hb⟩

/-- A runtime that executes this many invocations at a time. -/
def runtimeWith (permits : Nat) (permits_pos : 1 ≤ permits) : CommandRuntime Unit Unit where
  handlers := ∅
  capabilities := ∅
  admissionPolicy := none
  permits := permits
  deliveryCapacity := permits
  maxInputBytes := 1
  maxOutputBytes := 1
  defaultTimeout := 1
  maxTimeout := 1
  resultGrace := 0
  permits_pos := permits_pos
  deliveryCapacity_eq := rfl

def oneAtATime : CommandRuntime Unit Unit := runtimeWith 1 Nat.one_pos

def numberedInvocation (id : String) : NodeInvocation :=
  ⟨id, "node-1", "echo", .null, none, none, none, none, none⟩

/-- The session offers three invocations. -/
def threeOffered : RuntimeRun :=
  let offered := ["invoke-0", "invoke-1", "invoke-2"].map fun id =>
    IncomingEvent.node (.invocation (numberedInvocation id))
  ⟨.looping, .unpolled, offered, .empty, [], [], .idle, 1, 0, 0, offered, [], [], [], [], [], [],
    []⟩

theorem threeOffered_initial : threeOffered.Initial oneAtATime :=
  ⟨rfl, (fun _ _ he => nomatch he), rfl⟩

/-- The first invocation is executed, the second held by the overload worker, the third queued. -/
theorem all_taken : ∃ w, (runtimeSystem oneAtATime).Reachable w ∧ w.phase = .looping ∧
    w.taken = 3 ∧ w.worker = .holding 1 ∧ w.queue = [2] ∧ w.dropped = [] ∧
    (∃ g, w.tasks = [⟨0, g, .evaluating⟩]) ∧ w.completed = [] := by
  have h₀ : (runtimeSystem oneAtATime).Reachable _ := .initial threeOffered_initial
  have h₁ := h₀.step (.event rfl (.spawn (numberedInvocation "invoke-0") 0 rfl rfl))
  have h₂ := h₁.step (.event rfl (.overload (numberedInvocation "invoke-1") rfl rfl
    (fun _ h => nomatch h) (Nat.zero_lt_one)))
  have h₃ := h₂.step (.worker (.recv rfl rfl))
  have h₄ := h₃.step (.event rfl (.overload (numberedInvocation "invoke-2") rfl rfl
    (fun _ h => nomatch h) (Nat.zero_lt_one)))
  exact ⟨_, h₄, rfl, rfl, rfl, rfl, rfl, ⟨_, rfl⟩, rfl⟩

def retryingRules : ReconnectRules Unit := ⟨id, fun _ _ => (.retryAfter 1, ())⟩

def noDelays : LifecycleDelays := ⟨0, 0⟩

/-- The session closes while its first invocation is executed, and a second attempt begins. -/
theorem second_attempt_begins : ∃ s s' w,
    (attemptSystem retryingRules noDelays oneAtATime).Reachable s ∧
    AttemptStep retryingRules noDelays oneAtATime s (some .begin) s' ∧ s.runs = [w] ∧
    w.taken = 1 ∧ w.stopped = [0] := by
  have h₀ : (attemptSystem retryingRules noDelays oneAtATime).Reachable
      ⟨⟨(), 0, .starting, [], [], [], false, []⟩, []⟩ := .initial ⟨⟨(), rfl⟩, rfl⟩
  have h₁ := h₀.step (.driver rfl (.begin rfl))
  have h₂ := h₁.step (.connected false ⟨none, none, none⟩ threeOffered rfl threeOffered_initial)
  have h₃ := h₂.step (.run [] [] rfl
    (.event rfl (.spawn (numberedInvocation "invoke-0") 0 rfl rfl)))
  have h₄ := h₃.step (.run [] [] rfl (.closed (.closed "session closed") rfl))
  have h₅ := h₄.step (.run [] [] rfl (.task [] [] rfl (.gone "cancelled" (Or.inl rfl))))
  have h₆ := h₅.step (.run [] [] rfl (.worker (.ended (.gone "cancelled") fun _ h => nomatch h)))
  have h₇ := h₆.step (.run [] [] rfl (.joinStopped [] [] rfl rfl rfl))
  have h₈ := h₇.step (.run [] [] rfl (.finish rfl rfl rfl))
  have h₉ := h₈.step (.returned false rfl rfl rfl)
  have h₁₀ := h₉.step (.driver rfl
    (.delayElapsed false (show _ = LifecyclePhase.backingOff 1 from rfl)))
  exact ⟨_, _, _, h₁₀, .driver rfl (.begin rfl), rfl, rfl, rfl⟩

theorem first_run_left_nothing : ∃ w s, (runtimeSystem oneAtATime).Reachable w ∧ w.taken = 3 ∧
    w.Accounted 1 ∧ (attemptSystem retryingRules noDelays oneAtATime).Reachable s ∧
    ∃ w ∈ s.runs, w.taken = 1 ∧ w.LeavesNothing 1 := by
  obtain ⟨w, hw, -, htaken, -⟩ := all_taken
  obtain ⟨s, s', r, hs, hb, hruns, hr, -⟩ := second_attempt_begins
  obtain ⟨haccounted, hattempts⟩ :=
    runtime_run_accounting retryingRules noDelays oneAtATime
  have hmem : r ∈ s.runs := by
    rw [hruns]
    exact List.mem_cons_self
  exact ⟨w, s, hw, htaken, haccounted w hw, hs, r, hmem, hr, (hattempts s s' hs hb r hmem).2⟩

/-- When the overload worker's delivery fails, what was queued for it is in no place any more,
though `run` has not returned. -/
theorem queued_result_lost : ∃ w, (runtimeSystem oneAtATime).Reachable w ∧ w.phase = .looping ∧
    2 < w.taken ∧ 2 ∉ w.completed ∧ (∀ t ∈ w.tasks, t.event ≠ 2) ∧ 2 ∉ w.queue ∧
    2 ∉ w.worker.held := by
  obtain ⟨w, hw, hphase, htaken, hworker, hqueue, -, ⟨g, htasks⟩, hcompleted⟩ := all_taken
  have h₁ := hw.step (.worker (.request hworker))
  have h₂ := h₁.step (.worker (.ended (.failed (.writeTimeout "node.invoke.result"))
    (fun _ h => nomatch h)))
  refine ⟨_, h₂, hphase, htaken.symm ▸ (by decide), ?_, ?_, List.not_mem_nil, List.not_mem_nil⟩
  · show 2 ∉ w.completed
    simp [hcompleted]
  · show ∀ t ∈ w.tasks, t.event ≠ 2
    simp [htasks]

end OpenclawNode.Node
