import Mathlib.Tactic
import OpenclawNode.Base.Transition
import OpenclawNode.Node.HealthRequest

/-! The accept loop of the local health endpoint and the tasks it spawns. -/
namespace OpenclawNode.Node

open BigEndian (Bytes)
open Transition (System)

def maxHealthConnections : Nat := 8

def maxConsecutiveHealthAcceptErrors : Nat := 3

/-- A task that serves one connection; it keeps its permit until it is joined, unless it panics. -/
inductive HealthTask
  | reading
  | writing (response : HealthResponse)
  | finished
  | panicked

def HealthTask.holdsPermit : HealthTask → Bool
  | .reading | .writing _ | .finished => true
  | .panicked => false

/-- The loop with its permits and spawned tasks, and which accepts succeeded, which connections it
dropped and which are over. Connections are numbered as they are accepted. -/
structure HealthServer where
  consecutiveAcceptErrors : Nat
  sleeping : Bool
  available : Nat
  requests : List (Nat × HealthTask)
  accepts : List Bool
  refused : List Nat
  ended : List Nat
  returned : Bool

/-- A result of reading a request, as the task goes on from it. -/
def HealthTask.answered {ε : Type} : Except (HealthError ε) HealthResponse → HealthTask
  | .ok response => .writing response
  | .error _ => .finished

namespace HealthServer

def start : HealthServer := ⟨0, false, maxHealthConnections, [], [], [], [], false⟩

/-- The number of the next connection. -/
def next (s : HealthServer) : Nat := s.accepts.count true

def accepted (s : HealthServer) : HealthServer :=
  if s.available = 0 then
    { s with
      consecutiveAcceptErrors := 0
      accepts := s.accepts ++ [true]
      refused := s.refused ++ [s.next] }
  else
    { s with
      consecutiveAcceptErrors := 0
      available := s.available - 1
      requests := s.requests ++ [(s.next, .reading)]
      accepts := s.accepts ++ [true] }

def acceptFailed (s : HealthServer) : HealthServer :=
  { s with
    consecutiveAcceptErrors := s.consecutiveAcceptErrors + 1
    accepts := s.accepts ++ [false]
    sleeping := decide (s.consecutiveAcceptErrors + 1 < maxConsecutiveHealthAcceptErrors)
    returned := decide (maxConsecutiveHealthAcceptErrors ≤ s.consecutiveAcceptErrors + 1) }

end HealthServer

inductive HealthAction (ε : Type)
  | accepted
  | acceptFailed
  | retried
  | read (connection : Nat) (pieces : List (Except ε Bytes))
  | written (connection : Nat)
  | panicked (connection : Nat)
  | joined (connection : Nat)
  | aborted (connection : Nat)

/-- Whether a step is one of a spawned task. -/
def HealthAction.ofTask {ε : Type} : HealthAction ε → Bool
  | .read .. | .written _ | .panicked _ | .aborted _ => true
  | .accepted | .acceptFailed | .retried | .joined _ => false

/-- The steps of the loop and of its tasks, when the host is ready or not. Tasks that are aborted
may still go on to their next wait. -/
inductive HealthStep {ε : Type} (ready : Bool) : HealthServer → HealthAction ε → HealthServer → Prop
  | accepted {s} : s.returned = false → s.sleeping = false →
      HealthStep ready s .accepted s.accepted
  | acceptFailed {s} : s.returned = false → s.sleeping = false →
      HealthStep ready s .acceptFailed s.acceptFailed
  | retried {s} : s.returned = false → s.sleeping = true →
      HealthStep ready s .retried { s with sleeping := false }
  | read {s n before after} (pieces : List (Except ε Bytes)) :
      s.requests = before ++ (n, .reading) :: after →
      HealthStep ready s (.read n pieces)
        { s with requests := before ++ (n, .answered (serveHealthRequest ready pieces)) :: after }
  | written {s n response before after} : s.requests = before ++ (n, .writing response) :: after →
      HealthStep ready s (.written n) { s with requests := before ++ (n, .finished) :: after }
  | panicked {s n task before after} : s.requests = before ++ (n, task) :: after →
      task.holdsPermit = true →
      HealthStep ready s (.panicked n)
        { s with requests := before ++ (n, .panicked) :: after, available := s.available + 1 }
  | joined {s n task before after} : s.returned = false → s.sleeping = false →
      s.requests = before ++ (n, task) :: after → (task = .finished ∨ task = .panicked) →
      HealthStep ready s (.joined n)
        { s with
          requests := before ++ after
          ended := s.ended ++ [n]
          available := s.available + task.holdsPermit.toNat }
  | aborted {s n task before after} : s.returned = true →
      s.requests = before ++ (n, task) :: after →
      HealthStep ready s (.aborted n)
        { s with
          requests := before ++ after
          ended := s.ended ++ [n]
          available := s.available + task.holdsPermit.toNat }

/-- The health endpoint of a host whose readiness may change at any time. -/
def healthSystem (ε : Type) : System HealthServer (Bool × HealthAction ε) where
  Initial s := s = .start
  Step s a s' := HealthStep a.1 s a.2 s'

/-- How many accepts in a row failed last. -/
def trailingFailures (accepts : List Bool) : Nat := (accepts.reverse.takeWhile (!·)).length

variable {ε : Type} {ready : Bool} {s s' : HealthServer} {a : HealthAction ε}

theorem trailingFailures_success (accepts : List Bool) :
    trailingFailures (accepts ++ [true]) = 0 := by
  simp [trailingFailures]

theorem trailingFailures_failure (accepts : List Bool) :
    trailingFailures (accepts ++ [false]) = trailingFailures accepts + 1 := by
  simp [trailingFailures]

/-- What holds of the health endpoint in every reachable state. -/
structure HealthServer.Accounted (s : HealthServer) : Prop where
  permits : s.available + s.requests.countP (·.2.holdsPermit) = maxHealthConnections
  connections : ((s.refused ++ s.requests.map Prod.fst ++ s.ended : List Nat) : Multiset Nat) =
    Multiset.range (s.accepts.count true)
  errors : s.consecutiveAcceptErrors = trailingFailures s.accepts
  returned : s.returned = true ↔
    maxConsecutiveHealthAcceptErrors ≤ trailingFailures s.accepts
  before : ∀ accepts result, s.accepts = accepts ++ [result] →
    trailingFailures accepts < maxConsecutiveHealthAcceptErrors

/-- A task goes on. -/
theorem HealthServer.Accounted.change {n : Nat} {task task' : HealthTask}
    {before after : List (Nat × HealthTask)} {available : Nat} (h : s.Accounted)
    (hr : s.requests = before ++ (n, task) :: after)
    (ha : available + task'.holdsPermit.toNat = s.available + task.holdsPermit.toNat) :
    HealthServer.Accounted
      { s with requests := before ++ (n, task') :: after, available := available } where
  permits := by
    have hp := h.permits
    rw [hr, List.countP_append, List.countP_cons] at hp
    rw [List.countP_append, List.countP_cons]
    cases ht : task.holdsPermit <;> cases ht' : task'.holdsPermit <;>
      simp only [ht, ht', Bool.toNat_false, Bool.toNat_true, if_true, Bool.false_eq_true, if_false]
        at hp ha ⊢ <;> omega
  connections := by
    have hc := h.connections
    rw [hr] at hc
    simpa using hc
  errors := h.errors
  returned := h.returned
  before := h.before

/-- A task is over, and its permit free. -/
theorem HealthServer.Accounted.finish {n : Nat} {task : HealthTask}
    {before after : List (Nat × HealthTask)} (h : s.Accounted)
    (hr : s.requests = before ++ (n, task) :: after) :
    HealthServer.Accounted
      { s with
        requests := before ++ after
        ended := s.ended ++ [n]
        available := s.available + task.holdsPermit.toNat } where
  permits := by
    have hp := h.permits
    rw [hr, List.countP_append, List.countP_cons] at hp
    rw [List.countP_append]
    cases ht : task.holdsPermit <;>
      simp only [ht, Bool.toNat_false, Bool.toNat_true, if_true, Bool.false_eq_true, if_false]
        at hp ⊢ <;> omega
  connections := by
    have hc := h.connections
    rw [hr] at hc
    change ((s.refused ++ (before ++ after).map Prod.fst ++ (s.ended ++ [n]) : List Nat) :
      Multiset Nat) = Multiset.range (s.accepts.count true)
    rw [← hc, Multiset.coe_eq_coe]
    simp only [List.map_append, List.map_cons, List.append_assoc, List.cons_append]
    refine List.Perm.append_left _ (List.Perm.append_left _ ?_)
    rw [← List.append_assoc]
    exact List.perm_append_singleton n _
  errors := h.errors
  returned := h.returned
  before := h.before

theorem HealthServer.Accounted.accepted (h : s.Accounted) (hl : s.returned = false) :
    s.accepted.Accounted := by
  have hroom : trailingFailures s.accepts < maxConsecutiveHealthAcceptErrors := by
    by_contra hle
    rw [h.returned.mpr (Nat.not_lt.mp hle)] at hl
    cases hl
  have hreturned : s.returned = true ↔
      maxConsecutiveHealthAcceptErrors ≤ trailingFailures (s.accepts ++ [true]) := by
    rw [hl, trailingFailures_success]
    decide
  have hbefore : ∀ accepts result, s.accepts ++ [true] = accepts ++ [result] →
      trailingFailures accepts < maxConsecutiveHealthAcceptErrors := by
    intro accepts result heq
    rw [← (List.append_inj' heq rfl).1]
    exact hroom
  have hnext : (s.accepts ++ [true]).count true = s.next + 1 := by
    rw [List.count_append]
    rfl
  unfold HealthServer.accepted
  by_cases hfull : s.available = 0
  · rw [if_pos hfull]
    refine ⟨h.permits, ?_, (trailingFailures_success _).symm, hreturned, hbefore⟩
    change _ = Multiset.range ((s.accepts ++ [true]).count true)
    rw [hnext, Multiset.range_succ, HealthServer.next, ← h.connections, Multiset.cons_coe, Multiset.coe_eq_coe]
    simp only [List.append_assoc, List.cons_append, List.nil_append]
    exact List.perm_middle
  · rw [if_neg hfull]
    refine ⟨?_, ?_, (trailingFailures_success _).symm, hreturned, hbefore⟩
    · have hp := h.permits
      change s.available - 1 + (s.requests ++ [_]).countP _ = _
      rw [List.countP_append, List.countP_singleton,
        if_pos (show HealthTask.reading.holdsPermit = true from rfl)]
      omega
    · change _ = Multiset.range ((s.accepts ++ [true]).count true)
      rw [hnext, Multiset.range_succ, HealthServer.next, ← h.connections, Multiset.cons_coe, Multiset.coe_eq_coe]
      simp only [List.map_append, List.map_cons, List.map_nil, List.append_assoc, List.cons_append,
        List.nil_append]
      rw [← List.append_assoc, ← List.append_assoc]
      exact List.perm_middle

theorem HealthServer.Accounted.acceptFailed (h : s.Accounted) (hl : s.returned = false) :
    s.acceptFailed.Accounted := by
  have hroom : trailingFailures s.accepts < maxConsecutiveHealthAcceptErrors := by
    by_contra hle
    rw [h.returned.mpr (Nat.not_lt.mp hle)] at hl
    cases hl
  refine ⟨h.permits, ?_, ?_, ?_, ?_⟩
  · have hnext : (s.accepts ++ [false]).count true = s.next := by
      rw [List.count_append]
      rfl
    change _ = Multiset.range ((s.accepts ++ [false]).count true)
    rw [hnext]
    exact h.connections
  · change s.consecutiveAcceptErrors + 1 = trailingFailures (s.accepts ++ [false])
    rw [trailingFailures_failure, h.errors]
  · change decide _ = true ↔ _ ≤ trailingFailures (s.accepts ++ [false])
    rw [trailingFailures_failure, ← h.errors, decide_eq_true_eq]
  · intro accepts result heq
    rw [← (List.append_inj' heq rfl).1]
    exact hroom

theorem health_step (hs : HealthStep ready s a s') (h : s.Accounted) : s'.Accounted := by
  cases hs with
  | accepted hl => exact h.accepted hl
  | acceptFailed hl => exact h.acceptFailed hl
  | retried => exact ⟨h.permits, h.connections, h.errors, h.returned, h.before⟩
  | read pieces hr =>
    refine h.change hr ?_
    cases serveHealthRequest ready pieces <;> rfl
  | written hr => exact h.change hr rfl
  | panicked hr ht => exact h.change hr (by rw [ht]; rfl)
  | joined _ _ hr => exact h.finish hr
  | aborted _ hr => exact h.finish hr

theorem health_start : HealthServer.start.Accounted where
  permits := rfl
  connections := rfl
  errors := rfl
  returned := by decide
  before := by
    intro accepts result heq
    cases accepts <;> cases heq

theorem health_reachable (hs : (healthSystem ε).Reachable s) : s.Accounted := by
  refine hs.invariant (P := HealthServer.Accounted) ?_ fun s a s' => health_step
  rintro s rfl
  exact health_start

/-- A connection is dropped exactly when every permit is held. -/
theorem HealthServer.Accounted.refuses_iff (h : s.Accounted) :
    s.accepted.refused = s.refused ++ [s.next] ↔
      s.requests.countP (·.2.holdsPermit) = maxHealthConnections := by
  have hp := h.permits
  unfold HealthServer.accepted
  by_cases hfull : s.available = 0
  · rw [if_pos hfull]
    exact ⟨fun _ => by omega, fun _ => rfl⟩
  · rw [if_neg hfull]
    constructor
    · intro heq
      exact absurd (congrArg List.length heq) (by simp)
    · intro hcount
      omega

/-- At most eight tasks hold a permit, every accepted connection is dropped, served or over exactly
once, it is dropped only when eight permits are held, and the loop gives up exactly when three
accepts in a row have failed. -/
theorem health_endpoint_accounts (ε : Type) (s : HealthServer)
    (hs : (healthSystem ε).Reachable s) :
    s.available + s.requests.countP (·.2.holdsPermit) = 8 ∧
    ((s.refused ++ s.requests.map Prod.fst ++ s.ended : List Nat) : Multiset Nat) =
      Multiset.range (s.accepts.count true) ∧
    (s.accepted.refused = s.refused ++ [s.next] ↔ s.requests.countP (·.2.holdsPermit) = 8) ∧
    (s.returned = true ↔ 3 ≤ trailingFailures s.accepts) ∧
    (∀ accepts result, s.accepts = accepts ++ [result] → trailingFailures accepts < 3) ∧
    (s.returned = true → ∀ ready a s', HealthStep (ε := ε) ready s a s' → a.ofTask = true) := by
  have h := health_reachable hs
  refine ⟨h.permits, h.connections, h.refuses_iff, h.returned, h.before, ?_⟩
  intro hr ready a s' hstep
  cases hstep with
  | accepted hl | acceptFailed hl | retried hl | joined hl => rw [hr] at hl; cases hl
  | read | written | panicked | aborted => rfl

theorem healthSystem_step (ready : Bool) (h : (healthSystem ε).Reachable s)
    (hs : HealthStep ready s a s') :
    (healthSystem ε).Reachable s' := h.step (a := (ready, a)) hs

/-- A success and three failures. -/
theorem health_endpoint_gives_up : ∃ s : HealthServer, (healthSystem Unit).Reachable s ∧
    s.accepts = [true, false, false, false] ∧ s.returned = true ∧
    s.requests.map Prod.fst = [0] := by
  have h₀ : (healthSystem Unit).Reachable .start := .initial rfl
  have h₁ := healthSystem_step true h₀ (.accepted rfl rfl)
  have h₂ := healthSystem_step true h₁ (.acceptFailed rfl rfl)
  have h₃ := healthSystem_step true h₂ (.retried rfl rfl)
  have h₄ := healthSystem_step true h₃ (.acceptFailed rfl rfl)
  have h₅ := healthSystem_step true h₄ (.retried rfl rfl)
  have h₆ := healthSystem_step true h₅ (.acceptFailed rfl rfl)
  obtain ⟨-, -, -, hreturned, -⟩ := health_endpoint_accounts _ _ h₆
  exact ⟨_, h₆, rfl, hreturned.mpr (by decide), rfl⟩

end OpenclawNode.Node
