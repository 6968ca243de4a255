import Mathlib.Data.List.Chain
import OpenclawNode.Node.Lifecycle

/-! The grammar of the events that a lifecycle emits. -/
namespace OpenclawNode.Node

open LifecycleRun (nextAttempt)

variable {Policy : Type} {rules : ReconnectRules Policy} {delays : LifecycleDelays}
  {s s' : LifecycleRun Policy} {a : LifecycleAction}

/-- Which event may come directly after which. -/
def Follows : LifecycleEvent → LifecycleEvent → Prop
  | .connecting k, .connected k' _ _ => k' = k
  | .connecting k, .disconnected k' reason => k' = k ∧ ∃ error, reason = .client error
  | .connecting k, .stopped k' _ => k' = k
  | .connected k _ _, .ready k' => k' = k
  | .ready k, .disconnected k' _ => k' = k
  | .disconnected k reason, .backingOff k' _ reason' =>
    k' = k ∧ reason' = reason ∧ reason ≠ .shutdown ∧ reason ≠ .runtimeEnded
  | .disconnected k reason, .paused k' _ => k' = k ∧ ∃ error, reason = .client error
  | .disconnected k reason, .stopped k' _ => k' = k ∧ reason = .shutdown
  | .disconnected k reason, .connecting k' => k' = nextAttempt k ∧ reason = .runtimeEnded
  | .backingOff k _ _, .connecting k' => k' = nextAttempt k
  | .backingOff k _ _, .stopped k' _ => k' = k
  | _, _ => False

/-- The attempt that a `Connecting` announces. -/
def LifecycleEvent.announced : LifecycleEvent → Option UInt64
  | .connecting attempt => some attempt
  | _ => none

/-- A prefix of a word of the grammar: it starts with the first attempt, each event may follow the
one before, and the host is ready exactly while the last event is `Ready`. -/
structure Trail (events : List LifecycleEvent) : Prop where
  chain : events.IsChain Follows
  head : ∀ event ∈ events.head?, event = .connecting 1
  ready : events.foldl hostReady false = true ↔ ∃ k, events.getLast? = some (.ready k)

theorem Trail.nil : Trail [] :=
  ⟨List.isChain_nil, by simp, by simp⟩

theorem Trail.first : Trail [.connecting 1] :=
  ⟨List.isChain_singleton _, by simp, by simp [hostReady]⟩

theorem Trail.snoc {events : List LifecycleEvent} {last event : LifecycleEvent}
    (h : Trail events) (hl : events.getLast? = some last) (hf : Follows last event) :
    Trail (events ++ [event]) where
  chain := by
    refine List.isChain_append.mpr ⟨h.chain, List.isChain_singleton _, ?_⟩
    intro x hx y hy
    cases hl.symm.trans hx
    cases hy
    exact hf
  head := by
    intro first hfirst
    cases events with
    | nil => cases hl
    | cons e events => exact h.head first hfirst
  ready := by
    have hready := h.ready
    rw [hl] at hready
    rw [List.foldl_append]
    cases event with
    | connected k protocol version =>
      cases last <;> simp_all [hostReady, Follows]
    | backingOff k delay reason =>
      cases last <;> simp_all [hostReady, Follows]
    | connecting | ready | disconnected | paused | stopped => simp [hostReady]

/-- What the last event is where the driver awaits. -/
def LifecyclePhase.Expects (attempt : UInt64) : LifecyclePhase → Option LifecycleEvent → Prop
  | .starting, none => attempt = 0
  | .starting, some event =>
    event = .disconnected attempt .runtimeEnded ∨ ∃ delay reason,
      event = .backingOff attempt delay reason
  | .connecting, event => event = some (.connecting attempt)
  | .running, event => event = some (.ready attempt)
  | .draining, event => event = some (.disconnected attempt .shutdown)
  | .backingOff delay, event => ∃ reason, event = some (.backingOff attempt delay reason)
  | .returned (.ok ()), event => ∃ drained, event = some (.stopped attempt drained)
  | .returned (.error (.paused reason)), event => event = some (.paused attempt reason)

/-- What holds of a lifecycle in every reachable state. -/
structure LifecycleRun.Traced (s : LifecycleRun Policy) : Prop where
  trail : Trail s.events
  last : s.phase.Expects s.attempt s.events.getLast?
  connects : s.connects = s.events.filterMap LifecycleEvent.announced
  attempt : s.attempt.toNat = min s.connects.length (2 ^ 64 - 1)
  numbered : ∀ i k, s.connects[i]? = some k → k.toNat = min (i + 1) (2 ^ 64 - 1)
  polls : ∀ polled ∈ s.polls, polled = false
  shutdown : s.shutdownDone = true → ¬ s.phase.polls ∧ s.phase ≠ .starting

theorem toNat_nextAttempt (k : UInt64) :
    (nextAttempt k).toNat = min (k.toNat + 1) (2 ^ 64 - 1) := by
  have hk := k.toNat_lt
  unfold nextAttempt
  cases hc : FixedWidth.checkedSucc k with
  | none =>
    have hfull : ¬ k.toNat + 1 < 2 ^ 64 := by
      intro hroom
      have hs := FixedWidth.checkedSucc_eq_some.mpr ⟨hroom, rfl⟩
      rw [hc] at hs
      cases hs
    simp only [Option.getD_none]
    omega
  | some next =>
    obtain ⟨hroom, rfl⟩ := FixedWidth.checkedSucc_eq_some.mp hc
    simp only [Option.getD_some]
    rw [FixedWidth.toNat_succ hroom]
    omega

/-- The bookkeeping that only some steps touch. -/
structure LifecycleRun.Kept (s s' : LifecycleRun Policy) : Prop where
  attempt : s'.attempt = s.attempt
  connects : s'.connects = s.connects
  announced : s'.events.filterMap LifecycleEvent.announced =
    s.events.filterMap LifecycleEvent.announced
  polls : ∀ polled ∈ s'.polls, polled ∈ s.polls ∨ polled = s.shutdownDone
  shutdown : s'.shutdownDone = true → s.shutdownDone = true ∨ ¬ s'.phase.polls ∧
    s'.phase ≠ .starting

/-- A step in a wait where the shutdown future is polled. -/
theorem LifecycleRun.Traced.keep (h : s.Traced) (hp : s.shutdownDone = false) (hk : s.Kept s')
    (ht : Trail s'.events) (hl : s'.phase.Expects s.attempt s'.events.getLast?) :
    s'.Traced where
  trail := ht
  last := by
    rw [hk.attempt]
    exact hl
  connects := by rw [hk.connects, hk.announced, h.connects]
  attempt := by rw [hk.attempt, hk.connects, h.attempt]
  numbered := by
    rw [hk.connects]
    exact h.numbered
  polls := by
    intro polled hmem
    rcases hk.polls polled hmem with hold | rfl
    · exact h.polls polled hold
    · exact hp
  shutdown := by
    intro hs
    rcases hk.shutdown hs with hold | hnew
    · rw [hp] at hold
      cases hold
    · exact hnew

theorem LifecycleRun.Traced.live (h : s.Traced) (hp : s.phase.polls) : s.shutdownDone = false := by
  cases hs : s.shutdownDone with
  | false => rfl
  | true => exact absurd hp (h.shutdown hs).1

theorem LifecycleRun.Traced.pollShutdown (h : s.Traced) (hp : s.phase.polls) :
    (s.pollShutdown false).Traced := by
  have hlive := h.live hp
  refine h.keep hlive ⟨rfl, rfl, rfl, ?_, ?_⟩ h.trail h.last
  · intro polled hmem
    rcases List.mem_append.mp hmem with hmem | hmem
    · exact Or.inl hmem
    · exact Or.inr (List.mem_singleton.mp hmem)
  · intro hs
    rw [LifecycleRun.pollShutdown, hlive] at hs
    cases hs

theorem LifecycleRun.Traced.won (h : s.Traced) (hp : s.phase.polls) (polled : Bool) :
    (s.won polled).Traced ∧ (s.won polled).phase = s.phase := by
  cases polled with
  | false => exact ⟨h, rfl⟩
  | true => exact ⟨h.pollShutdown hp, rfl⟩

section

open LifecycleRun

variable {last : LifecycleEvent}

theorem getLast?_snoc (events : List LifecycleEvent) (event : LifecycleEvent) :
    (events ++ [event]).getLast? = some event := by simp

/-- Two events are emitted one after the other. -/
theorem Trail.snoc_snoc {events : List LifecycleEvent} {first second : LifecycleEvent}
    (h : Trail events) (hl : events.getLast? = some last) (hf : Follows last first)
    (hs : Follows first second) : Trail (events ++ [first] ++ [second]) :=
  (h.snoc hl hf).snoc (getLast?_snoc events first) hs

theorem traced_stop {drained : Bool} (h : s.Traced) (hp : s.phase.polls)
    (hl : s.events.getLast? = some last) (hf : Follows last (.stopped s.attempt drained)) :
    ((s.pollShutdown true).stop drained).Traced := by
  refine h.keep (h.live hp) ⟨rfl, rfl, ?_, ?_, ?_⟩ (h.trail.snoc hl hf)
    ⟨drained, getLast?_snoc _ _⟩
  · simp [stop, finish, emit, LifecycleRun.pollShutdown, LifecycleEvent.announced]
  · intro polled hmem
    rcases List.mem_append.mp hmem with hmem | hmem
    · exact Or.inl hmem
    · exact Or.inr (List.mem_singleton.mp hmem)
  · exact fun _ => Or.inr ⟨fun h => h, fun h => by cases h⟩

theorem traced_onConnected {session : ConnectedSession} (h : s.Traced)
    (hp : s.phase = .connecting) : (s.onConnected rules session).Traced := by
  have hl := h.last
  rw [hp] at hl
  have hlive := h.live (by rw [hp]; trivial)
  refine h.keep hlive ⟨rfl, rfl, ?_, fun _ => Or.inl, ?_⟩ (h.trail.snoc_snoc hl rfl rfl)
    (getLast?_snoc _ _)
  · simp [onConnected, emit, LifecycleEvent.announced]
  · intro hs
    exact Or.inl hs

/-- A failed connection or session is announced, and then retried later or given up. -/
theorem traced_handleClientFailure {error : ClientError} (h : s.Traced) (hp : s.phase.polls)
    (hl : s.events.getLast? = some last)
    (hf : ∀ e, Follows last (.disconnected s.attempt (.client e))) :
    (s.handleClientFailure rules delays error).Traced := by
  have hlive := h.live hp
  have hbackoff : ∀ (delay : Nanos) (reconnect : Policy),
      (LifecycleRun.backoff { s.emit (.disconnected s.attempt (.client (.of error))) with
        reconnect := reconnect } delay (.client (.of error))).Traced := by
    intro delay reconnect
    refine h.keep hlive ⟨rfl, rfl, ?_, fun _ => Or.inl, fun hs => Or.inl hs⟩
      (h.trail.snoc_snoc hl (hf _) ⟨rfl, rfl, by simp, by simp⟩) ⟨_, getLast?_snoc _ _⟩
    simp [backoff, emit, LifecycleEvent.announced]
  unfold handleClientFailure
  dsimp only
  split
  · exact hbackoff _ _
  · exact hbackoff _ _
  · refine h.keep hlive ⟨rfl, rfl, ?_, fun _ => Or.inl, fun hs => Or.inl hs⟩
      (h.trail.snoc_snoc hl (hf _) ⟨rfl, _, rfl⟩) (getLast?_snoc _ _)
    simp [finish, emit, LifecycleEvent.announced]
  · exact hbackoff _ _

theorem traced_handleRuntimeFailure {error : RuntimeErrorClass} (h : s.Traced)
    (hp : s.phase = .running) : (s.handleRuntimeFailure delays error).Traced := by
  have hl := h.last
  rw [hp] at hl
  refine h.keep (h.live (by rw [hp]; trivial))
    ⟨rfl, rfl, ?_, fun _ => Or.inl, fun hs => Or.inl hs⟩
    (h.trail.snoc_snoc hl rfl ⟨rfl, rfl, by simp, by simp⟩) ⟨_, getLast?_snoc _ _⟩
  simp [handleRuntimeFailure, backoff, emit, LifecycleEvent.announced]

theorem traced_onRuntimeResult {result : RuntimeResult} (h : s.Traced)
    (hp : s.phase = .running) : (s.onRuntimeResult rules delays result).Traced := by
  have hl := h.last
  rw [hp] at hl
  cases result with
  | client error =>
    exact traced_handleClientFailure h (by rw [hp]; trivial) hl fun _ => rfl
  | deliverySaturated => exact traced_handleRuntimeFailure h hp
  | resultTask => exact traced_handleRuntimeFailure h hp
  | ended =>
    refine h.keep (h.live (by rw [hp]; trivial))
      ⟨rfl, rfl, ?_, fun _ => Or.inl, fun hs => Or.inl hs⟩ (h.trail.snoc hl rfl) ?_
    · simp [onRuntimeResult, emit, LifecycleEvent.announced]
    · change LifecyclePhase.Expects _ .starting (s.events ++ [_]).getLast?
      rw [getLast?_snoc]
      exact Or.inl rfl

theorem traced_begin (h : s.Traced) (hp : s.phase = .starting) : s.begin.Traced := by
  have hl := h.last
  rw [hp] at hl
  have htrail : Trail (s.events ++ [.connecting (nextAttempt s.attempt)]) := by
    cases hlast : s.events.getLast? with
    | none =>
      rw [hlast] at hl
      rw [List.getLast?_eq_none_iff.mp hlast, show s.attempt = 0 from hl]
      exact Trail.first
    | some last =>
      rw [hlast] at hl
      rcases hl with rfl | ⟨delay, reason, rfl⟩
      · exact h.trail.snoc hlast ⟨rfl, rfl⟩
      · exact h.trail.snoc hlast rfl
  refine ⟨htrail, getLast?_snoc _ _, ?_, ?_, ?_, h.polls, ?_⟩
  · change s.connects ++ [_] = (s.events ++ [_]).filterMap _
    rw [List.filterMap_append, ← h.connects]
    rfl
  · change (nextAttempt s.attempt).toNat = min (s.connects ++ [_]).length _
    rw [toNat_nextAttempt, h.attempt, List.length_append, List.length_singleton]
    omega
  · intro i k hk
    change (s.connects ++ [_])[i]? = some k at hk
    rcases Nat.lt_trichotomy i s.connects.length with hlt | heq | hgt
    · rw [List.getElem?_append_left hlt] at hk
      exact h.numbered i k hk
    · subst heq
      rw [List.getElem?_append_right (Nat.le_refl _), Nat.sub_self] at hk
      cases hk
      rw [toNat_nextAttempt, h.attempt]
      omega
    · rw [List.getElem?_eq_none (by simp; omega)] at hk
      cases hk
  · intro hs
    exact absurd hp (h.shutdown hs).2

end

theorem traced_step (hs : LifecycleStep rules delays s a s') (h : s.Traced) : s'.Traced := by
  cases hs with
  | begin hp => exact traced_begin h hp
  | pending hp => exact h.pollShutdown hp
  | connectShutdown hp =>
    have hl := h.last
    rw [hp] at hl
    exact traced_stop h (by rw [hp]; trivial) hl rfl
  | connected polled session hp =>
    obtain ⟨hwon, hphase⟩ := h.won (by rw [hp]; trivial) polled
    exact traced_onConnected hwon (hphase.trans hp)
  | connectFailed polled error hp =>
    have hpolls : s.phase.polls := by rw [hp]; trivial
    obtain ⟨hwon, hphase⟩ := h.won hpolls polled
    have hl := hwon.last
    rw [hphase, hp] at hl
    exact traced_handleClientFailure hwon (by rw [hphase]; exact hpolls) hl
      fun e => ⟨rfl, e, rfl⟩
  | runShutdown hp =>
    have hl := h.last
    rw [hp] at hl
    refine h.keep (h.live (by rw [hp]; trivial)) ⟨rfl, rfl, ?_, ?_, ?_⟩ (h.trail.snoc hl rfl)
      (getLast?_snoc _ _)
    · simp [LifecycleRun.emit, LifecycleRun.pollShutdown, LifecycleEvent.announced]
    · intro polled hmem
      rcases List.mem_append.mp hmem with hmem | hmem
      · exact Or.inl hmem
      · exact Or.inr (List.mem_singleton.mp hmem)
    · exact fun _ => Or.inr ⟨fun h => h, fun h => by cases h⟩
  | runtime polled result hp =>
    obtain ⟨hwon, hphase⟩ := h.won (by rw [hp]; trivial) polled
    exact traced_onRuntimeResult hwon (hphase.trans hp)
  | @drained inTime hp =>
    have hl := h.last
    rw [hp] at hl
    refine ⟨h.trail.snoc hl ⟨rfl, rfl⟩, ⟨inTime, getLast?_snoc _ _⟩, ?_, h.attempt, h.numbered,
      h.polls, fun _ => ⟨fun h => h, fun h => by cases h⟩⟩
    rw [show (s.stop inTime).connects = s.connects from rfl, h.connects]
    simp [LifecycleRun.stop, LifecycleRun.finish, LifecycleRun.emit, LifecycleEvent.announced]
  | backoffShutdown hp =>
    have hl := h.last
    rw [hp] at hl
    obtain ⟨reason, hl⟩ := hl
    exact traced_stop h (by rw [hp]; trivial) hl rfl
  | @delayElapsed delay polled hp =>
    obtain ⟨hwon, hphase⟩ := h.won (by rw [hp]; trivial) polled
    have hl := hwon.last
    rw [hphase, hp] at hl
    obtain ⟨reason, hl⟩ := hl
    refine hwon.keep (hwon.live (by rw [hphase, hp]; trivial))
      ⟨rfl, rfl, rfl, fun _ => Or.inl, fun hs => Or.inl hs⟩ hwon.trail ?_
    change LifecyclePhase.Expects _ .starting (s.won polled).events.getLast?
    rw [hl]
    exact Or.inr ⟨delay, reason, rfl⟩

theorem traced_reachable (hs : (lifecycleSystem rules delays).Reachable s) : s.Traced := by
  refine hs.invariant (P := LifecycleRun.Traced) ?_ fun s a s' => traced_step
  rintro s ⟨policy, rfl⟩
  exact ⟨Trail.nil, rfl, rfl, rfl, by simp, by simp, fun h => by cases h⟩

/-- The driver has returned, and with what, exactly when its last event says so; the events are a
word of the grammar up to there, attempts are numbered from one, the connection factory is invoked
once for each, and the shutdown future is never polled after it completed. -/
theorem lifecycle_trace_grammar {Policy : Type} (rules : ReconnectRules Policy)
    (delays : LifecycleDelays) (s : LifecycleRun Policy)
    (hs : (lifecycleSystem rules delays).Reachable s) :
    s.events.IsChain Follows ∧ (∀ event ∈ s.events.head?, event = .connecting 1) ∧
    (s.phase = .returned (.ok ()) ↔ ∃ k drained, s.events.getLast? = some (.stopped k drained)) ∧
    (∀ reason, s.phase = .returned (.error (.paused reason)) ↔
      ∃ k, s.events.getLast? = some (.paused k reason)) ∧
    (∀ result, s.phase = .returned result → ∀ a s', ¬ LifecycleStep rules delays s a s') ∧
    (∀ polled ∈ s.polls, polled = false) ∧
    s.connects = s.events.filterMap LifecycleEvent.announced ∧
    (∀ i k, s.connects[i]? = some k → i + 1 < 2 ^ 64 → k.toNat = i + 1) ∧
    (s.events.foldl hostReady false = true ↔ ∃ k, s.events.getLast? = some (.ready k)) := by
  have h := traced_reachable hs
  have hl := h.last
  refine ⟨h.trail.chain, h.trail.head, ?_, ?_, ?_, h.polls, h.connects, ?_, h.trail.ready⟩
  · constructor
    · intro hp
      rw [hp] at hl
      exact ⟨_, hl⟩
    · rintro ⟨k, drained, he⟩
      rw [he] at hl
      rcases hp : s.phase with _ | _ | _ | _ | _ | (⟨⟨reason⟩⟩ | ⟨⟨⟩⟩) <;>
        rw [hp] at hl <;> simp_all [LifecyclePhase.Expects]
  · intro reason
    constructor
    · intro hp
      rw [hp] at hl
      exact ⟨_, hl⟩
    · rintro ⟨k, he⟩
      rw [he] at hl
      rcases hp : s.phase with _ | _ | _ | _ | _ | (⟨⟨reason⟩⟩ | ⟨⟨⟩⟩) <;>
        rw [hp] at hl <;> simp_all [LifecyclePhase.Expects]
  · intro result hp a s' hstep
    cases hstep <;> simp_all [LifecyclePhase.polls]
  · intro i k hk hroom
    have hnumber := h.numbered i k hk
    omega

/-- A node that is connected once and then shut down. -/
theorem served_trace : ∃ s : LifecycleRun Unit,
    (lifecycleSystem ⟨id, fun _ _ => (.keepSession, ())⟩ ⟨1, 1⟩).Reachable s ∧
      s.events = [.connecting 1, .connected 1 (some 3) none, .ready 1, .disconnected 1 .shutdown,
        .stopped 1 true] ∧
      s.events.IsChain Follows ∧ s.phase = .returned (.ok ()) := by
  have h₀ : (lifecycleSystem ⟨id, fun _ _ => (.keepSession, ())⟩ ⟨1, 1⟩).Reachable
      (⟨(), 0, .starting, [], [], [], false, []⟩ : LifecycleRun Unit) := .initial ⟨(), rfl⟩
  have h₁ := h₀.step (.begin rfl)
  have h₂ := h₁.step (.connected false ⟨some 3, none, none⟩ rfl)
  have h₃ := h₂.step (.runShutdown rfl)
  have h₄ := h₃.step (.drained true rfl)
  obtain ⟨hchain, -, hreturned, -⟩ := lifecycle_trace_grammar _ _ _ h₄
  exact ⟨_, h₄, rfl, hchain, hreturned.mpr ⟨1, true, rfl⟩⟩

end OpenclawNode.Node
