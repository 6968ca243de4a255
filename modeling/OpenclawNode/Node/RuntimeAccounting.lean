import OpenclawNode.Node.RuntimeLoop

/-! Where the invocations that a runtime's loop takes are, and what they hold. -/
namespace OpenclawNode.Node

open Transition (System)

/-- How often an event is found among the tasks of a kind. -/
def countTasks (kind : HandlerTask → Bool) (e : Nat) (tasks : List HandlerTask) : Nat :=
  tasks.countP fun t => kind t && t.event == e

section

variable {kind : HandlerTask → Bool} {e : Nat} {before after : List HandlerTask} {t : HandlerTask}

@[simp] theorem countTasks_nil : countTasks kind e [] = 0 := rfl

theorem countP_middle {α : Type} {p : α → Bool} {before after : List α} {a : α} :
    (before ++ a :: after).countP p = (before ++ after).countP p + (p a).toNat := by
  rw [List.countP_append, List.countP_cons, List.countP_append, Nat.add_assoc]
  cases p a <;> rfl

theorem countTasks_middle : countTasks kind e (before ++ t :: after) =
    countTasks kind e (before ++ after) + (kind t && t.event == e).toNat := countP_middle

theorem countTasks_snoc {tasks : List HandlerTask} : countTasks kind e (tasks ++ [t]) =
    countTasks kind e tasks + (kind t && t.event == e).toNat := by
  have h : countTasks kind e (tasks ++ t :: []) =
      countTasks kind e (tasks ++ []) + (kind t && t.event == e).toNat := countTasks_middle
  rwa [List.append_nil] at h

theorem count_one {x : Nat} : [x].count e = (x == e).toNat := by
  rw [List.count_singleton]
  cases x == e <;> rfl

end

namespace RuntimeRun

/-- In how many places an invocation is: delivered, owned by a task, queued, held by the overload
worker, or given up. -/
def placesOf (w : RuntimeRun) (e : Nat) : Nat :=
  w.completed.count e + countTasks HandlerTask.live e w.tasks + w.queue.count e +
    w.worker.held.count e + w.dropped.count e

/-- How often the result of an invocation was asked to be sent, or may still be. -/
def sendsOf (w : RuntimeRun) (e : Nat) : Nat :=
  w.requests.count e + countTasks HandlerTask.unsent e w.tasks + w.queue.count e +
    w.worker.unsent.count e

def holders (w : RuntimeRun) : Nat := w.tasks.countP HandlerTask.holdsPermit

/-- Every invocation that was taken is in one place, and its result is sent at most once. -/
structure Accounts (n : Nat) (w : RuntimeRun) : Prop where
  places : ∀ e, w.placesOf e = if e < w.taken then 1 else 0
  sends : ∀ e, w.sendsOf e ≤ if e < w.taken then 1 else 0
  permits : w.free + w.others + w.kept + w.holders = n
  room : w.queue.length ≤ n
  decoded : w.invocations = w.received.filterMap IncomingEvent.invocation

end RuntimeRun

variable {H P : Type} {runtime : CommandRuntime H P} {w w' : RuntimeRun} {a : RuntimeAction} {n : Nat}

/-- What the accounts are about stays where it is. -/
theorem RuntimeRun.Accounts.same (h : w.Accounts n) (hplaces : ∀ e, w'.placesOf e = w.placesOf e)
    (hsends : ∀ e, w'.sendsOf e ≤ w.sendsOf e) (htaken : w'.taken = w.taken)
    (hpermits : w'.free + w'.others + w'.kept + w'.holders =
      w.free + w.others + w.kept + w.holders) (hroom : w'.queue.length ≤ w.queue.length)
    (hdecoded : w'.invocations = w'.received.filterMap IncomingEvent.invocation) :
    w'.Accounts n where
  places e := by rw [hplaces, htaken, h.places]
  sends e := by
    rw [htaken]
    exact (hsends e).trans (h.sends e)
  permits := hpermits.trans h.permits
  room := hroom.trans h.room
  decoded := hdecoded

/-- One more invocation is taken, to one place. -/
theorem RuntimeRun.Accounts.takes (h : w.Accounts n)
    (hplaces : ∀ e, w'.placesOf e = w.placesOf e + [w.taken].count e)
    (hsends : ∀ e, w'.sendsOf e ≤ w.sendsOf e + [w.taken].count e)
    (htaken : w'.taken = w.taken + 1)
    (hpermits : w'.free + w'.others + w'.kept + w'.holders =
      w.free + w.others + w.kept + w.holders) (hroom : w'.queue.length ≤ n)
    (hdecoded : w'.invocations = w'.received.filterMap IncomingEvent.invocation) :
    w'.Accounts n := by
  have hone : ∀ e, [w.taken].count e = if w.taken = e then 1 else 0 := by
    intro e
    rw [List.count_singleton]
    simp only [beq_iff_eq]
  refine ⟨?_, ?_, hpermits.trans h.permits, hroom, hdecoded⟩
  · intro e
    rw [hplaces, htaken, h.places, hone]
    split_ifs <;> omega
  · intro e
    refine (hsends e).trans ?_
    have hle := h.sends e
    rw [htaken, hone]
    split_ifs at hle ⊢ <;> omega

theorem decoded_receive (h : w.Accounts n) (event : IncomingEvent) (rest : List IncomingEvent) :
    (w.receive event rest).invocations =
      (w.receive event rest).received.filterMap IncomingEvent.invocation := by
  simp only [RuntimeRun.receive, List.filterMap_append, h.decoded]
  cases hi : event.invocation <;> simp [hi]

theorem taken_receive {invocation : NodeInvocation} (rest : List IncomingEvent) :
    (w.receive (.node (.invocation invocation)) rest).invocations.length = w.taken + 1 := by
  simp [RuntimeRun.taken, RuntimeRun.receive, IncomingEvent.invocation]

theorem receive_none {event : IncomingEvent} (rest : List IncomingEvent)
    (h : event.invocation = none) : (w.receive event rest).taken = w.taken := by
  simp [RuntimeRun.taken, RuntimeRun.receive, h]

theorem accounts_loop (hs : LoopEvent runtime w w') (hn : runtime.deliveryCapacity = n)
    (h : w.Accounts n) : w'.Accounts n := by
  cases hs with
  | @ignored rest he =>
    exact h.same (fun _ => rfl) (fun _ => le_refl _) (receive_none rest rfl) rfl (le_refl _)
      (decoded_receive h _ rest)
  | @invalid rest error he =>
    exact h.same (fun _ => rfl) (fun _ => le_refl _) (receive_none rest rfl) rfl (le_refl _)
      (decoded_receive h _ rest)
  | @control rest event he hnone =>
    exact h.same (fun _ => rfl) (fun _ => le_refl _) (receive_none rest hnone) rfl (le_refl _)
      (decoded_receive h _ rest)
  | @spawn rest invocation free he hfree =>
    refine h.takes ?_ ?_ (taken_receive rest) ?_ h.room (decoded_receive h _ rest)
    · intro e
      simp only [RuntimeRun.placesOf, RuntimeRun.spawnHandlerTask, RuntimeRun.receive,
        countTasks_snoc, HandlerTask.live, Bool.true_and, count_one]
      omega
    · intro e
      simp only [RuntimeRun.sendsOf, RuntimeRun.spawnHandlerTask, RuntimeRun.receive,
        countTasks_snoc, HandlerTask.unsent, Bool.true_and, count_one]
      omega
    · simp only [RuntimeRun.holders, RuntimeRun.spawnHandlerTask, RuntimeRun.receive,
        List.countP_append, List.countP_singleton, HandlerTask.holdsPermit, if_true, hfree]
      omega
  | @overload rest invocation he hfree hlive hroom =>
    refine h.takes ?_ ?_ (taken_receive rest) rfl ?_ (decoded_receive h _ rest)
    · intro e
      simp only [RuntimeRun.placesOf, RuntimeRun.receive, List.count_append]
      omega
    · intro e
      simp only [RuntimeRun.sendsOf, RuntimeRun.receive, List.count_append]
      omega
    · rw [List.length_append, ← hn]
      exact hroom
  | @saturated rest invocation he hfree hlive hfull =>
    refine h.takes ?_ (fun e => Nat.le_add_right _ _) (taken_receive rest) rfl h.room
      (decoded_receive h _ rest)
    intro e
    simp only [RuntimeRun.placesOf, RuntimeRun.receive, RuntimeRun.stop, List.count_append]
    omega
  | @undeliverable rest outcome invocation error he hfree hended =>
    refine h.takes ?_ (fun e => Nat.le_add_right _ _) (taken_receive rest) rfl h.room
      (decoded_receive h _ rest)
    intro e
    simp only [RuntimeRun.placesOf, RuntimeRun.receive, RuntimeRun.stop, List.count_append]
    omega

theorem RuntimeRun.Accounts.dropGuard (h : w.Accounts n) (g : Option ActiveInvocation) :
    (w.dropGuard g).Accounts n := by
  cases g <;> exact ⟨h.places, h.sends, h.permits, h.room, h.decoded⟩

theorem accounts_task {before after : List HandlerTask} {t : HandlerTask}
    (hs : TaskStep w before after t w') (ht : w.tasks = before ++ t :: after)
    (h : w.Accounts n) : w'.Accounts n := by
  have hplaces : ∀ e, w.placesOf e = w.completed.count e +
      (countTasks HandlerTask.live e (before ++ after) + (t.live && t.event == e).toNat) +
      w.queue.count e + w.worker.held.count e + w.dropped.count e := by
    intro e
    rw [RuntimeRun.placesOf, ht, countTasks_middle]
  have hsends : ∀ e, w.sendsOf e = w.requests.count e +
      (countTasks HandlerTask.unsent e (before ++ after) + (t.unsent && t.event == e).toNat) +
      w.queue.count e + w.worker.unsent.count e := by
    intro e
    rw [RuntimeRun.sendsOf, ht, countTasks_middle]
  have hholders : w.holders = (before ++ after).countP HandlerTask.holdsPermit +
      t.holdsPermit.toNat := by
    rw [RuntimeRun.holders, ht, countP_middle]
  have hlive : t.phase = .evaluating ∨ t.phase = .completing →
      t.live = true ∧ t.holdsPermit = true := by
    rintro (hp | hp) <;> simp [HandlerTask.live, HandlerTask.holdsPermit, hp]
  -- A task that ends moves its invocation to one of the two records.
  have hended : ∀ (outcome : TaskOutcome) (free : Nat) (completed dropped : List Nat),
      t.phase = .evaluating ∨ t.phase = .completing →
      (∀ e, completed.count e + dropped.count e =
        w.completed.count e + w.dropped.count e + (t.event == e).toNat) →
      free + (HandlerTask.mk t.event t.guarded (.ended outcome)).holdsPermit.toNat = w.free + 1 →
      RuntimeRun.Accounts n { w with
        tasks := before ++ { t with phase := .ended outcome } :: after
        free, completed, dropped } := by
    intro outcome free completed dropped hp hrecords hfree
    obtain ⟨hl, hh⟩ := hlive hp
    refine h.same ?_ ?_ rfl ?_ (le_refl _) h.decoded
    · intro e
      have hrecord := hrecords e
      rw [hplaces, hl]
      simp only [RuntimeRun.placesOf, countTasks_middle, HandlerTask.live, Bool.false_and,
        Bool.true_and, Bool.toNat_false]
      omega
    · intro e
      rw [hsends]
      simp only [RuntimeRun.sendsOf, countTasks_middle, HandlerTask.unsent, Bool.false_and,
        Bool.toNat_false]
      omega
    · rw [hholders, hh]
      simp only [RuntimeRun.holders, countP_middle, Bool.toNat_true]
      omega
  cases hs with
  | request hp =>
    obtain ⟨hl, hh⟩ := hlive (Or.inl hp)
    have hunsent : t.unsent = true := by simp [HandlerTask.unsent, hp]
    refine h.same ?_ ?_ rfl ?_ (le_refl _) h.decoded
    · intro e
      rw [hplaces, hl]
      simp only [RuntimeRun.placesOf, countTasks_middle, HandlerTask.live]
    · intro e
      rw [hsends, hunsent]
      simp only [RuntimeRun.sendsOf, countTasks_middle, HandlerTask.unsent, List.count_append,
        count_one, Bool.false_and, Bool.true_and, Bool.toNat_false]
      omega
    · rw [hholders, hh]
      simp only [RuntimeRun.holders, countP_middle, HandlerTask.holdsPermit]
  | refused error hp =>
    refine RuntimeRun.Accounts.dropGuard (hended (.failed error) w.free w.completed _ (Or.inl hp)
      ?_ rfl) t.guarded
    intro e
    rw [List.count_append, count_one, Nat.add_assoc]
  | completed hp =>
    refine RuntimeRun.Accounts.dropGuard (hended .completed w.free _ w.dropped (Or.inr hp) ?_ rfl) _
    intro e
    rw [List.count_append, count_one]
    omega
  | failed error hp =>
    refine RuntimeRun.Accounts.dropGuard (hended (.failed error) w.free w.completed _ (Or.inr hp)
      ?_ rfl) t.guarded
    intro e
    rw [List.count_append, count_one, Nat.add_assoc]
  | gone reason hp =>
    refine RuntimeRun.Accounts.dropGuard (hended (.gone reason) (w.free + 1) w.completed _ hp ?_
      rfl) t.guarded
    intro e
    rw [List.count_append, count_one, Nat.add_assoc]

theorem accounts_worker (hs : WorkerStep w w') (h : w.Accounts n) : w'.Accounts n := by
  cases hs with
  | @recv event rest hi hq =>
    refine h.same ?_ ?_ rfl rfl ?_ h.decoded
    · intro e
      simp only [RuntimeRun.placesOf, hi, hq, OverloadWorker.held, List.count_cons, List.count_nil]
      omega
    · intro e
      simp only [RuntimeRun.sendsOf, hi, hq, OverloadWorker.unsent, List.count_cons,
        List.count_nil]
      omega
    · rw [hq, List.length_cons]
      exact Nat.le_succ _
  | @request event hp =>
    refine h.same ?_ ?_ rfl rfl (le_refl _) h.decoded
    · intro e
      simp only [RuntimeRun.placesOf, hp, OverloadWorker.held]
    · intro e
      simp only [RuntimeRun.sendsOf, hp, OverloadWorker.unsent, List.count_append, List.count_nil]
      omega
  | @completed event hp =>
    refine h.same ?_ ?_ rfl rfl (le_refl _) h.decoded
    · intro e
      simp only [RuntimeRun.placesOf, hp, OverloadWorker.held, List.count_append, List.count_nil]
      omega
    · intro e
      simp only [RuntimeRun.sendsOf, hp, OverloadWorker.unsent]
      omega
  | ended outcome hp =>
    refine h.same ?_ ?_ rfl rfl (Nat.zero_le _) h.decoded
    · intro e
      simp only [RuntimeRun.placesOf, OverloadWorker.held, List.count_append, List.count_nil]
      omega
    · intro e
      simp only [RuntimeRun.sendsOf, OverloadWorker.unsent, List.count_nil]
      omega

theorem RuntimeRun.Accounts.stop (h : w.Accounts n) (error : RuntimeError) :
    (w.stop error).Accounts n :=
  ⟨h.places, h.sends, h.permits, h.room, h.decoded⟩

/-- The output of a task that has ended is taken, and its permit goes to one of the three. -/
theorem RuntimeRun.Accounts.joins {before after : List HandlerTask} {t : HandlerTask}
    {outcome : TaskOutcome} {free kept : Nat} (h : w.Accounts n)
    (ht : w.tasks = before ++ t :: after) (hp : t.phase = .ended outcome)
    (hfree : free + kept = w.free + w.kept + t.holdsPermit.toNat) :
    RuntimeRun.Accounts n { w with tasks := before ++ after, free, kept } := by
  have hl : t.live = false := by simp [HandlerTask.live, hp]
  have hu : t.unsent = false := by simp [HandlerTask.unsent, hp]
  refine h.same ?_ ?_ rfl ?_ (le_refl _) h.decoded
  · intro e
    simp only [RuntimeRun.placesOf, ht, countTasks_middle, hl, Bool.false_and, Bool.toNat_false,
      Nat.add_zero]
  · intro e
    simp only [RuntimeRun.sendsOf, ht, countTasks_middle, hu, Bool.false_and, Bool.toNat_false,
      Nat.add_zero, le_refl]
  · simp only [RuntimeRun.holders, ht, countP_middle]
    omega

theorem joined_permits {t : HandlerTask} {outcome : TaskOutcome} (hp : t.phase = .ended outcome) :
    outcome.joined.1 + (outcome.joined.2.elim 0 Prod.snd) = t.holdsPermit.toNat := by
  cases outcome <;> simp [TaskOutcome.joined, HandlerTask.holdsPermit, hp]

theorem accounts_step (hs : RuntimeStep runtime w a w') (hn : runtime.deliveryCapacity = n)
    (h : w.Accounts n) : w'.Accounts n := by
  cases hs with
  | publish _ | poll _ _ _ => exact ⟨h.places, h.sends, h.permits, h.room, h.decoded⟩
  | outsideTakes free hf =>
    refine h.same (fun _ => rfl) (fun _ => le_refl _) rfl ?_ (le_refl _) h.decoded
    show free + (w.others + 1) + w.kept + w.holders = _
    omega
  | outsideReturns others ho =>
    refine h.same (fun _ => rfl) (fun _ => le_refl _) rfl ?_ (le_refl _) h.decoded
    show w.free + 1 + others + w.kept + w.holders = _
    omega
  | outsideCalls _ => exact ⟨h.places, h.sends, h.permits, h.room, h.decoded⟩
  | event _ hl => exact accounts_loop hl hn h
  | closed error _ => exact h.stop _
  | task before after ht hs => exact accounts_task hs ht h
  | worker hs => exact accounts_worker hs h
  | @join t outcome released before after _ ht hp hj =>
    have hpermit := joined_permits hp
    rw [hj] at hpermit
    have hjoined : RuntimeRun.Accounts n { w with
        tasks := before ++ after, free := w.free + released } := by
      refine h.joins ht hp ?_
      rw [← hpermit]
      simp only [Option.elim]
      omega
    exact ⟨hjoined.places, hjoined.sends, hjoined.permits, hjoined.room, hjoined.decoded⟩
  | @joinFailed t outcome released error kept before after _ ht hp hj =>
    have hpermit := joined_permits hp
    have hreleased : released = 0 := by
      cases outcome <;> cases hj <;> rfl
    rw [hj, hreleased] at hpermit
    have hjoined : RuntimeRun.Accounts n { w with
        tasks := before ++ after, free := w.free, kept := w.kept + kept } := by
      refine h.joins ht hp ?_
      simp only [Option.elim] at hpermit
      omega
    exact hjoined.stop error
  | workerEnded error _ _ => exact h.stop _
  | @joinStopped t outcome error before after _ ht hp =>
    refine h.joins ht hp ?_
    cases t.holdsPermit <;> simp
    omega
  | @finish outcome error _ _ _ =>
    refine h.same (fun _ => rfl) (fun _ => le_refl _) rfl ?_ (le_refl _) h.decoded
    show w.free + w.kept + w.others + 0 + w.holders = _
    omega

theorem accounts_initial (hw : w.Initial runtime) : w.Accounts runtime.permits := by
  obtain ⟨hpermits, -, he⟩ := hw
  rw [he]
  refine ⟨fun _ => rfl, fun _ => Nat.zero_le _, ?_, Nat.zero_le _, rfl⟩
  simpa [RuntimeRun.holders] using hpermits

theorem accounts_run_reachable (hw : (runtimeSystem runtime).Reachable w) :
    w.Accounts runtime.permits :=
  hw.invariant (fun _ hi => accounts_initial hi)
    (fun _ _ _ hs h => accounts_step hs runtime.deliveryCapacity_eq h)

/-- No delivery has failed and nothing stops: the loop goes on, its overload worker too, and no task
has ended otherwise than by delivering its result. -/
structure RuntimeRun.Undisturbed (w : RuntimeRun) : Prop where
  looping : w.phase = .looping
  worker : ∀ outcome, w.worker ≠ .ended outcome
  tasks : ∀ t ∈ w.tasks, ∀ outcome, t.phase = .ended outcome → outcome = .completed

theorem undisturbed_dropGuard {g : Option ActiveInvocation}
    (hu : (w.dropGuard g).Undisturbed) : w.Undisturbed := by
  cases g <;> exact ⟨hu.looping, hu.worker, hu.tasks⟩

theorem dropped_dropGuard {g : Option ActiveInvocation} : (w.dropGuard g).dropped = w.dropped := by
  cases g <;> rfl

/-- A task that ends otherwise than by delivering its result is a disturbance. -/
theorem undisturbed_task {before after : List HandlerTask} {t : HandlerTask}
    (hs : TaskStep w before after t w') (ht : w.tasks = before ++ t :: after)
    (hu : w'.Undisturbed) : w.Undisturbed ∧ w'.dropped = w.dropped := by
  have hbad : ∀ {outcome : TaskOutcome} {u : RuntimeRun}, u.Undisturbed →
      u.tasks = before ++ { t with phase := .ended outcome } :: after → outcome = .completed := by
    intro outcome u hu ht
    refine hu.tasks { t with phase := .ended outcome } ?_ outcome rfl
    rw [ht]
    exact List.mem_append_right _ List.mem_cons_self
  have hback : ∀ {phase : TaskPhase} {u : RuntimeRun}, u.Undisturbed →
      u.tasks = before ++ { t with phase := phase } :: after →
      t.phase = .evaluating ∨ t.phase = .completing →
      ∀ d ∈ w.tasks, ∀ outcome, d.phase = .ended outcome → outcome = .completed := by
    intro phase u hu hut hp d hd outcome ho
    rw [ht] at hd
    rcases List.mem_append.mp hd with hd | hd
    · exact hu.tasks d (by rw [hut]; exact List.mem_append_left _ hd) outcome ho
    · rcases List.mem_cons.mp hd with rfl | hd
      · rw [ho] at hp
        rcases hp with hp | hp <;> cases hp
      · exact hu.tasks d (by rw [hut]; exact List.mem_append_right _ (List.mem_cons_of_mem _ hd))
          outcome ho
  cases hs with
  | request hp => exact ⟨⟨hu.looping, hu.worker, hback hu rfl (Or.inl hp)⟩, rfl⟩
  | completed hp =>
    have hu := undisturbed_dropGuard hu
    exact ⟨⟨hu.looping, hu.worker, hback hu rfl (Or.inr hp)⟩, dropped_dropGuard⟩
  | refused error _ | failed error _ | gone reason _ =>
    have hu := undisturbed_dropGuard hu
    cases hbad hu rfl

theorem undisturbed_loop (hs : LoopEvent runtime w w') (hu : w'.Undisturbed) :
    w.Undisturbed ∧ w'.dropped = w.dropped := by
  cases hs with
  | ignored _ | control _ _ _ | overload _ _ _ _ _ => exact ⟨⟨hu.looping, hu.worker, hu.tasks⟩, rfl⟩
  | invalid _ _ | saturated _ _ _ _ _ | undeliverable _ _ _ _ _ => cases hu.looping
  | spawn _ _ _ _ =>
    refine ⟨⟨hu.looping, hu.worker, ?_⟩, rfl⟩
    intro t ht
    exact hu.tasks t (List.mem_append_left _ ht)

/-- What is undisturbed was so before, and nothing was given up in between. -/
theorem undisturbed_step (hs : RuntimeStep runtime w a w') (hu : w'.Undisturbed) :
    w.Undisturbed ∧ w'.dropped = w.dropped := by
  cases hs with
  | publish _ | poll _ _ _ | outsideTakes _ _ | outsideReturns _ _ | outsideCalls _ =>
    exact ⟨⟨hu.looping, hu.worker, hu.tasks⟩, rfl⟩
  | event _ hl => exact undisturbed_loop hl hu
  | task before after ht hs => exact undisturbed_task hs ht hu
  | worker hs =>
    cases hs with
    | recv hi _ | request hi | completed hi =>
      refine ⟨⟨hu.looping, ?_, hu.tasks⟩, rfl⟩
      intro outcome ho
      rw [hi] at ho
      cases ho
    | ended outcome _ => exact absurd rfl (hu.worker outcome)
  | @join t outcome released before after hl ht hp hj =>
    refine ⟨⟨hl, hu.worker, ?_⟩, rfl⟩
    intro d hd o ho
    rw [ht] at hd
    rcases List.mem_append.mp hd with hd | hd
    · exact hu.tasks d (List.mem_append_left _ hd) o ho
    · rcases List.mem_cons.mp hd with rfl | hd
      · rw [hp] at ho
        cases ho
        cases outcome with
        | completed => rfl
        | failed _ | gone _ => cases hj
      · exact hu.tasks d (List.mem_append_right _ hd) o ho
  | closed _ _ | joinFailed _ _ _ _ _ _ | workerEnded _ _ _ => cases hu.looping
  | joinStopped _ _ hstop _ _ =>
    have hl : w.phase = .looping := hu.looping
    rw [hstop] at hl
    cases hl
  | finish _ _ _ => cases hu.looping

theorem nothing_dropped (hw : (runtimeSystem runtime).Reachable w) :
    w.Undisturbed → w.dropped = [] := by
  refine hw.invariant (P := fun w => w.Undisturbed → w.dropped = []) ?_ ?_
  · rintro w ⟨-, -, he⟩ -
    rw [he]
  · intro w a w' hs h hu
    obtain ⟨hu, hd⟩ := undisturbed_step hs hu
    rw [hd]
    exact h hu

theorem offered_loop (hs : LoopEvent runtime w w') :
    w'.received ++ w'.incoming = w.received ++ w.incoming ∧ w'.offered = w.offered := by
  have hreceive : ∀ {event rest}, w.incoming = event :: rest →
      (w.received ++ [event]) ++ rest = w.received ++ w.incoming := by
    intro event rest h
    rw [h, List.append_assoc, List.singleton_append]
  cases hs with
  | ignored h | invalid _ h | control _ h _ => exact ⟨hreceive h, rfl⟩
  | spawn _ _ h _ | overload _ h _ _ _ => exact ⟨hreceive h, rfl⟩
  | saturated _ h _ _ _ | undeliverable _ _ h _ _ => exact ⟨hreceive h, rfl⟩

/-- Whenever the future of the next event is dropped, what the session offers is received or still
to be received. -/
theorem offered_step (hs : RuntimeStep runtime w a w')
    (h : w.received ++ w.incoming = w.offered) : w'.received ++ w'.incoming = w'.offered := by
  cases hs with
  | publish event =>
    show w.received ++ (w.incoming ++ [event]) = w.offered ++ [event]
    rw [← List.append_assoc, h]
  | event _ hl =>
    obtain ⟨hsame, ho⟩ := offered_loop hl
    rw [hsame, ho, h]
  | task before after ht hs =>
    have hdrop : ∀ (u : RuntimeRun) g, u.received ++ u.incoming = u.offered →
        (u.dropGuard g).received ++ (u.dropGuard g).incoming = (u.dropGuard g).offered := by
      intro u g hu
      cases g <;> exact hu
    cases hs with
    | request _ => exact h
    | refused _ _ | completed _ | failed _ _ | gone _ _ => exact hdrop _ _ h
  | worker hs => cases hs <;> exact h
  | poll _ _ _ | outsideTakes _ _ | outsideReturns _ _ | outsideCalls _ | closed _ _ => exact h
  | join _ _ _ _ _ _ | joinFailed _ _ _ _ _ _ | workerEnded _ _ _ => exact h
  | joinStopped _ _ _ _ _ | finish _ _ _ => exact h

theorem offered_reachable (hw : (runtimeSystem runtime).Reachable w) :
    w.received ++ w.incoming = w.offered := by
  refine hw.invariant (P := fun w => w.received ++ w.incoming = w.offered) ?_
    (fun _ _ _ hs h => offered_step hs h)
  rintro w ⟨-, -, he⟩
  rw [he]
  rfl

end OpenclawNode.Node
