import OpenclawNode.Node.RuntimeAttempts

/-! Invocations that are dispatched one by one, many at a time and on any sessions. -/
namespace OpenclawNode.Node

open Transition (System)

/-- Where a call of `dispatch` stands: its refusal as a duplex command is being sent, or as one too
many; it has a permit; its evaluation is being polled, or its result is being sent; it has returned,
or its future was dropped. -/
inductive DispatchPhase
  | refused
  | overloaded
  | begun
  | evaluating (guarded : Option ActiveInvocation)
  | completing (guarded : Option ActiveInvocation)
  | returned (answer : Except RuntimeError Unit)
  | dropped

/-- A call of `dispatch`, and the results that it gave the session to complete its invocation. -/
structure DispatchCall where
  session : Nat
  invocation : NodeInvocation
  phase : DispatchPhase
  asked : List InvocationResult

namespace DispatchCall

/-- The call holds a permit of the runtime. -/
def holdsPermit (c : DispatchCall) : Bool :=
  match c.phase with
  | .begun | .evaluating _ | .completing _ => true
  | _ => false

/-- The call holds a permit for the overload results of its session. -/
def holdsDelivery (c : DispatchCall) : Bool :=
  match c.phase with
  | .overloaded => true
  | _ => false

def guarded (c : DispatchCall) : Option ActiveInvocation :=
  match c.phase with
  | .evaluating guarded | .completing guarded => guarded
  | _ => none

def ended (c : DispatchCall) : Bool :=
  match c.phase with
  | .returned _ | .dropped => true
  | _ => false

end DispatchCall

/-- What a runtime keeps for a session, and how far the session is closed. -/
structure DispatchScope where
  active : ActiveInvocations
  overloadPermits : Nat
  closing : Bool
  closed : Option ClientError

/-- The calls of `dispatch` on one runtime. `others` permits are held by its `run`s. -/
structure DispatchRun where
  free : Nat
  others : Nat
  scopes : Nat → DispatchScope
  calls : List DispatchCall

namespace DispatchRun

def setScope (w : DispatchRun) (session : Nat) (scope : DispatchScope) : DispatchRun :=
  { w with scopes := Function.update w.scopes session scope }

/-- A call ends in one way or the other. What it holds is dropped; its guard is armed unless the
result was delivered. -/
def finish (w : DispatchRun) (before after : List DispatchCall) (c : DispatchCall)
    (phase : DispatchPhase) (armed : Bool) : DispatchRun :=
  let scope := w.scopes c.session
  let active := match c.guarded with
    | none => scope.active
    | some g => scope.active.dropGuard { g with cancelOnDrop := g.cancelOnDrop && armed }
  { w.setScope c.session { scope with
      active, overloadPermits := scope.overloadPermits + c.holdsDelivery.toNat } with
    free := w.free + c.holdsPermit.toNat
    calls := before ++ { c with phase } :: after }

def cancelAll (w : DispatchRun) (session : Nat) : DispatchRun :=
  w.setScope session { w.scopes session with active := (w.scopes session).active.cancelAll }

end DispatchRun

def duplexRefusal : InvocationResult :=
  .failure "DUPLEX_REQUIRES_RUN" "duplex commands require CommandRuntime::run"

def overloadRefusal : InvocationResult :=
  .failure "OVERLOADED" "command runtime is at its concurrency limit"

def duplicateRefusal : InvocationResult :=
  .failure "DUPLICATE_INVOCATION" "invocation id is already executing"

section

variable {H P : Type} (runtime : CommandRuntime H P)

def CommandRuntime.isDuplex (invocation : NodeInvocation) : Bool :=
  (runtime.handlers.lookup invocation.command).any (·.duplex)

/-- The first poll of a call, up to what it awaits. -/
inductive DispatchBegin (w : DispatchRun) (session : Nat) (invocation : NodeInvocation) :
    DispatchRun → Prop
  | duplex : runtime.isDuplex invocation = true →
      DispatchBegin w session invocation { w with
        calls := w.calls ++ [⟨session, invocation, .refused, [duplexRefusal]⟩] }
  | permit (free : Nat) : runtime.isDuplex invocation = false → w.free = free + 1 →
      DispatchBegin w session invocation { w with
        free, calls := w.calls ++ [⟨session, invocation, .begun, []⟩] }
  | overload (permits : Nat) : runtime.isDuplex invocation = false → w.free = 0 →
      (w.scopes session).overloadPermits = permits + 1 →
      DispatchBegin w session invocation
        { w.setScope session { w.scopes session with overloadPermits := permits } with
          calls := w.calls ++ [⟨session, invocation, .overloaded, [overloadRefusal]⟩] }
  | saturated : runtime.isDuplex invocation = false → w.free = 0 →
      (w.scopes session).overloadPermits = 0 →
      DispatchBegin w session invocation
        { w.setScope session { w.scopes session with closing := true } with
          calls := w.calls ++ [⟨session, invocation, .returned (.error .deliverySaturated), []⟩] }

/-- What a call does next. Both branches of its selection may be ready at once. -/
inductive DispatchPoll (w : DispatchRun) (before after : List DispatchCall) (c : DispatchCall) :
    DispatchRun → Prop
  | sent (answer : Except ClientError Unit) : c.phase = .refused ∨ c.phase = .overloaded →
      DispatchPoll w before after c
        (w.finish before after c (.returned (answer.mapError .client)) true)
  | track {cancellation guarded active active'} : c.phase = .begun →
      (w.scopes c.session).active.newToken = (cancellation, active) →
      active.track c.invocation.id c.invocation.nodeId cancellation
        (runtime.isDuplex c.invocation) = (guarded, active') →
      DispatchPoll w before after c
        { w.setScope c.session { w.scopes c.session with active := active' } with
          calls := before ++ { c with phase := .evaluating guarded } :: after }
  | answered {guarded} (result : InvocationResult) : c.phase = .evaluating guarded →
      (guarded = none → result = duplicateRefusal) →
      DispatchPoll w before after c { w with
        calls := before ++
          { c with phase := .completing guarded, asked := c.asked ++ [result] } :: after }
  | closed {guarded error} : c.phase = .begun ∨ c.phase = .evaluating guarded →
      (w.scopes c.session).closed = some error →
      DispatchPoll w before after c
        ((w.finish before after c (.returned (.error (.client error))) true).cancelAll c.session)
  | completed {guarded} : c.phase = .completing guarded →
      DispatchPoll w before after c (w.finish before after c (.returned (.ok ())) false)
  | failed {guarded} (error : ClientError) : c.phase = .completing guarded →
      DispatchPoll w before after c
        (w.finish before after c (.returned (.error (.client error))) true)
  -- The caller drops the future.
  | dropped : c.ended = false →
      DispatchPoll w before after c (w.finish before after c .dropped true)

inductive DispatchAction
  | begin (session : Nat)
  | poll (place : Nat)
  | outside

inductive DispatchStep : DispatchRun → DispatchAction → DispatchRun → Prop
  | begin {w w'} (session : Nat) (invocation : NodeInvocation) :
      DispatchBegin runtime w session invocation w' → DispatchStep w (.begin session) w'
  | poll {w w' c} (before after : List DispatchCall) : w.calls = before ++ c :: after →
      DispatchPoll runtime w before after c w' → DispatchStep w (.poll before.length) w'
  | outsideTakes {w} (free : Nat) : w.free = free + 1 →
      DispatchStep w .outside { w with free, others := w.others + 1 }
  | outsideReturns {w} (others : Nat) : w.others = others + 1 →
      DispatchStep w .outside { w with free := w.free + 1, others }
  | outsideCalls {w active} (session : Nat) : ScopeCall (w.scopes session).active active →
      DispatchStep w .outside (w.setScope session { w.scopes session with active })
  | closing {w} (session : Nat) :
      DispatchStep w .outside (w.setScope session { w.scopes session with closing := true })
  | closed {w} (session : Nat) (error : ClientError) : (w.scopes session).closed = none →
      DispatchStep w .outside (w.setScope session { w.scopes session with closed := some error })

/-- No call was made yet. -/
def DispatchRun.Initial (w : DispatchRun) : Prop :=
  w.free + w.others = runtime.permits ∧ w.calls = [] ∧ ∀ session,
    (w.scopes session).overloadPermits = runtime.deliveryCapacity ∧
    (w.scopes session).active.TokensMade

def dispatchSystem : System DispatchRun DispatchAction where
  Initial := DispatchRun.Initial runtime
  Step := DispatchStep runtime

end

/-- What a call asked to be sent by the time it is in its phase. -/
def DispatchCall.Sound (closing : Bool) (c : DispatchCall) : Prop :=
  match c.phase with
  | .refused => c.asked = [duplexRefusal]
  | .overloaded => c.asked = [overloadRefusal]
  | .begun | .evaluating _ => c.asked = []
  | .completing _ | .returned (.ok ()) => c.asked.length = 1
  | .returned (.error .deliverySaturated) => c.asked = [] ∧ closing = true
  | .returned (.error _) | .dropped => c.asked.length ≤ 1

namespace DispatchRun

/-- How many calls execute their invocation. -/
def executing (w : DispatchRun) : Nat := w.calls.countP (·.holdsPermit)

/-- How many calls of a session are sending an overload result. -/
def delivering (w : DispatchRun) (session : Nat) : Nat :=
  w.calls.countP fun c => c.session == session && c.holdsDelivery

/-- Every permit is free or held, and every call is sound. -/
structure Accounts (n : Nat) (w : DispatchRun) : Prop where
  permits : w.free + w.others + w.executing = n
  deliveries : ∀ session,
    (w.scopes session).overloadPermits + w.delivering session = n
  calls : ∀ c ∈ w.calls, c.Sound (w.scopes c.session).closing
  made : ∀ session, (w.scopes session).active.TokensMade

end DispatchRun

section

variable {H P : Type} {runtime : CommandRuntime H P} {n session : Nat} {w w' : DispatchRun}
  {before after : List DispatchCall} {c : DispatchCall} {phase : DispatchPhase}
  {scope : DispatchScope} {invocation : NodeInvocation}

theorem DispatchCall.Sound.mono {closing closing' : Bool} (h : c.Sound closing)
    (hmono : closing = true → closing' = true) : c.Sound closing' := by
  unfold Sound at h ⊢
  split at h <;> first | exact h | exact ⟨h.1, hmono h.2⟩

theorem DispatchCall.Sound.length_le {closing : Bool} (h : c.Sound closing) :
    c.asked.length ≤ 1 := by
  unfold Sound at h
  split at h <;> first | exact h | exact h.le | simp [h]

theorem mem_middle {α : Type} {before after : List α} {a b : α} :
    b ∈ before ++ a :: after ↔ b = a ∨ b ∈ before ++ after := by
  simp only [List.mem_append, List.mem_cons]
  tauto

namespace DispatchRun

@[simp] theorem setScope_free : (w.setScope session scope).free = w.free := rfl

@[simp] theorem setScope_others : (w.setScope session scope).others = w.others := rfl

@[simp] theorem setScope_calls : (w.setScope session scope).calls = w.calls := rfl

@[simp] theorem setScope_self : (w.setScope session scope).scopes session = scope :=
  Function.update_self ..

@[simp] theorem setScope_ne {other : Nat} (h : other ≠ session) :
    (w.setScope session scope).scopes other = w.scopes other := Function.update_of_ne h ..

/-- A scope changes, but not its permits. -/
theorem Accounts.setScope (h : w.Accounts n)
    (hpermits : scope.overloadPermits = (w.scopes session).overloadPermits)
    (hclosing : (w.scopes session).closing = true → scope.closing = true)
    (hactive : (w.scopes session).active.Extends scope.active) :
    (w.setScope session scope).Accounts n := by
  have hscope : ∀ other, ((w.setScope session scope).scopes other).overloadPermits =
      (w.scopes other).overloadPermits ∧
      ((w.scopes other).closing = true →
        ((w.setScope session scope).scopes other).closing = true) ∧
      (w.scopes other).active.Extends ((w.setScope session scope).scopes other).active := by
    intro other
    by_cases ho : other = session
    · subst ho
      rw [setScope_self]
      exact ⟨hpermits, hclosing, hactive⟩
    · rw [setScope_ne ho]
      exact ⟨rfl, id, .refl _⟩
  refine ⟨h.permits, fun other => ?_, fun c hc => ?_, fun other => ?_⟩
  · rw [(hscope other).1]
    exact h.deliveries other
  · exact (h.calls c hc).mono (hscope c.session).2.1
  · exact (hscope other).2.2.tokensMade (h.made other)

/-- A call goes on and keeps what it holds. -/
theorem Accounts.advance {c' : DispatchCall} (h : w.Accounts n)
    (hw : w.calls = before ++ c :: after) (hsession : c'.session = c.session)
    (hpermit : c'.holdsPermit = c.holdsPermit) (hdelivery : c'.holdsDelivery = c.holdsDelivery)
    (hc : c'.Sound (w.scopes c.session).closing) :
    ({ w with calls := before ++ c' :: after } : DispatchRun).Accounts n := by
  refine ⟨?_, fun session => ?_, fun other ho => ?_, h.made⟩
  · have hpermits := h.permits
    rw [executing, hw, countP_middle] at hpermits
    rw [executing, countP_middle, hpermit]
    exact hpermits
  · have hdeliveries := h.deliveries session
    rw [delivering, hw, countP_middle] at hdeliveries
    rw [delivering, countP_middle, hsession, hdelivery]
    exact hdeliveries
  · rcases mem_middle.mp ho with rfl | ho
    · rw [hsession]
      exact hc
    · exact h.calls other (hw ▸ mem_middle.mpr (.inr ho))

/-- A call ends and returns what it holds. -/
theorem Accounts.finish {armed : Bool} (h : w.Accounts n) (hw : w.calls = before ++ c :: after)
    (hphase : ({ c with phase } : DispatchCall).ended = true)
    (hc : ({ c with phase } : DispatchCall).Sound (w.scopes c.session).closing) :
    (w.finish before after c phase armed).Accounts n := by
  have hpermit : ({ c with phase } : DispatchCall).holdsPermit = false := by
    unfold DispatchCall.ended at hphase
    unfold DispatchCall.holdsPermit
    cases phase <;> simp_all
  have hdelivery : ({ c with phase } : DispatchCall).holdsDelivery = false := by
    unfold DispatchCall.ended at hphase
    unfold DispatchCall.holdsDelivery
    cases phase <;> simp_all
  refine ⟨?_, fun session => ?_, fun other ho => ?_, fun session => ?_⟩
  · have hpermits := h.permits
    rw [executing, hw, countP_middle] at hpermits
    show w.free + c.holdsPermit.toNat + w.others +
      (before ++ ({ c with phase } : DispatchCall) :: after).countP _ = n
    rw [countP_middle, hpermit, Bool.toNat_false]
    omega
  · have hdeliveries := h.deliveries session
    rw [delivering, hw, countP_middle] at hdeliveries
    show ((w.setScope c.session _).scopes session).overloadPermits +
      (before ++ ({ c with phase } : DispatchCall) :: after).countP _ = n
    rw [countP_middle, hdelivery, Bool.and_false, Bool.toNat_false]
    by_cases hs : session = c.session
    · subst hs
      rw [beq_self_eq_true, Bool.true_and] at hdeliveries
      rw [setScope_self]
      dsimp only
      omega
    · rw [beq_eq_false_iff_ne.mpr fun he => hs he.symm, Bool.false_and, Bool.toNat_false]
        at hdeliveries
      rw [setScope_ne hs]
      omega
  · have hsame : ∀ session, ((w.finish before after c phase armed).scopes session).closing =
        (w.scopes session).closing := by
      intro session
      show ((w.setScope c.session _).scopes session).closing = _
      by_cases hs : session = c.session
      · subst hs
        rw [setScope_self]
      · rw [setScope_ne hs]
    rw [hsame]
    rcases mem_middle.mp ho with rfl | ho
    · exact hc
    · exact h.calls other (hw ▸ mem_middle.mpr (.inr ho))
  · show ((w.setScope c.session _).scopes session).active.TokensMade
    by_cases hs : session = c.session
    · subst hs
      rw [setScope_self]
      dsimp only
      split
      · exact h.made c.session
      · exact (ActiveInvocations.extends_dropGuard _ _).tokensMade (h.made c.session)
    · rw [setScope_ne hs]
      exact h.made session

theorem Accounts.cancelAll (h : w.Accounts n) : (w.cancelAll session).Accounts n :=
  h.setScope rfl id (ActiveInvocations.extends_cancelAll _)

/-- A call begins, with what it takes. -/
theorem Accounts.begin (h : w.Accounts n)
    (hs : DispatchBegin runtime w session invocation w') : w'.Accounts n := by
  have hsnoc : ∀ (c : DispatchCall) (p : DispatchCall → Bool),
      (w.calls ++ [c]).countP p = w.calls.countP p + (p c).toNat := by
    intro c p
    rw [countP_middle, List.append_nil]
  have hcalls : ∀ (c : DispatchCall) (scopes : Nat → DispatchScope),
      (∀ other, (w.scopes other).closing = true → (scopes other).closing = true) →
      c.Sound (scopes c.session).closing →
      ∀ d ∈ w.calls ++ [c], d.Sound (scopes d.session).closing := by
    intro c scopes hclosing hc d hd
    rcases List.mem_append.mp hd with hd | hd
    · exact (h.calls d hd).mono (hclosing d.session)
    · rw [List.mem_singleton.mp hd]
      exact hc
  cases hs with
  | duplex hduplex =>
    refine ⟨?_, fun other => ?_, hcalls _ _ (fun _ => id) rfl, h.made⟩
    · rw [executing, hsnoc]
      exact h.permits
    · rw [delivering, hsnoc, Bool.and_comm]
      exact h.deliveries other
  | permit free hduplex hfree =>
    have hpermits := h.permits
    refine ⟨?_, fun other => ?_, hcalls _ _ (fun _ => id) rfl, h.made⟩
    · rw [executing, hsnoc]
      rw [hfree] at hpermits
      show free + w.others + (w.executing + 1) = n
      omega
    · rw [delivering, hsnoc, Bool.and_comm]
      exact h.deliveries other
  | overload permits hduplex hfree hoverloads =>
    refine ⟨?_, fun other => ?_, hcalls _ _ (fun other hc => ?_) rfl, fun other => ?_⟩
    · rw [executing, hsnoc]
      exact h.permits
    · have hdeliveries := h.deliveries other
      rw [delivering, hsnoc]
      show ((w.setScope session _).scopes other).overloadPermits + (w.delivering other +
        ((session == other) && true).toNat) = n
      by_cases hs : other = session
      · subst hs
        rw [setScope_self, beq_self_eq_true, Bool.true_and, Bool.toNat_true]
        dsimp only
        omega
      · rw [setScope_ne hs, beq_eq_false_iff_ne.mpr fun he => hs he.symm, Bool.false_and,
          Bool.toNat_false]
        omega
    · show ((w.setScope session _).scopes other).closing = true
      by_cases hs : other = session
      · subst hs
        rw [setScope_self]
        exact hc
      · rw [setScope_ne hs]
        exact hc
    · show ((w.setScope session _).scopes other).active.TokensMade
      by_cases hs : other = session
      · subst hs
        rw [setScope_self]
        exact h.made other
      · rw [setScope_ne hs]
        exact h.made other
  | saturated hduplex hfree hoverloads =>
    have hclosed : (w.setScope session
        { w.scopes session with closing := true }).Accounts n :=
      h.setScope rfl (fun _ => rfl) (.refl _)
    refine ⟨?_, fun other => ?_, fun d hd => ?_, hclosed.made⟩
    · rw [executing, hsnoc]
      exact h.permits
    · rw [delivering, hsnoc, Bool.and_comm]
      exact hclosed.deliveries other
    · rcases List.mem_append.mp hd with hd | hd
      · exact hclosed.calls d hd
      · rw [List.mem_singleton.mp hd]
        refine ⟨rfl, ?_⟩
        show ((w.setScope session _).scopes session).closing = true
        rw [setScope_self]

/-- A call goes on. -/
theorem Accounts.poll (h : w.Accounts n) (hw : w.calls = before ++ c :: after)
    (hs : DispatchPoll runtime w before after c w') : w'.Accounts n := by
  have hc : c.Sound (w.scopes c.session).closing := h.calls c (hw ▸ mem_middle.mpr (.inl rfl))
  have hle := hc.length_le
  unfold DispatchCall.Sound at hc
  cases hs with
  | sent answer hphase =>
    have hlength : c.asked.length = 1 := by
      rcases hphase with hphase | hphase <;> (rw [hphase] at hc; rw [hc]; rfl)
    refine h.finish hw rfl ?_
    cases answer with
    | ok _ => exact hlength
    | error _ => exact hle
  | @track cancellation guarded active active' hphase hnew htrack =>
    rw [hphase] at hc
    have hcancellation : cancellation = (w.scopes c.session).active.tokens.length :=
      (congrArg Prod.fst hnew).symm
    have hactive : active = (w.scopes c.session).active.newToken.2 := (congrArg Prod.snd hnew).symm
    subst hcancellation hactive
    have hextends : (w.scopes c.session).active.Extends active' := by
      have hlt : (w.scopes c.session).active.tokens.length <
          (w.scopes c.session).active.newToken.2.tokens.length := by
        simp [ActiveInvocations.newToken]
      have htracked := ActiveInvocations.extends_track c.invocation.id c.invocation.nodeId
        (runtime.isDuplex c.invocation) hlt
      rw [htrack] at htracked
      exact (ActiveInvocations.extends_newToken _).trans htracked
    have hscope : (w.setScope c.session
        { w.scopes c.session with active := active' }).Accounts n := h.setScope rfl id hextends
    refine hscope.advance hw rfl ?_ ?_ ?_
    · unfold DispatchCall.holdsPermit
      rw [hphase]
    · unfold DispatchCall.holdsDelivery
      rw [hphase]
    · exact hc
  | @answered guarded result hphase hduplicate =>
    rw [hphase] at hc
    refine h.advance hw rfl ?_ ?_ ?_
    · unfold DispatchCall.holdsPermit
      rw [hphase]
    · unfold DispatchCall.holdsDelivery
      rw [hphase]
    · show (c.asked ++ [result]).length = 1
      rw [hc]
      rfl
  | closed hphase hclosed =>
    refine Accounts.cancelAll (h.finish hw rfl ?_)
    exact hle
  | completed hphase =>
    rw [hphase] at hc
    exact h.finish hw rfl hc
  | failed error hphase => exact h.finish hw rfl hle
  | dropped hlive => exact h.finish hw rfl hle

theorem Accounts.step {a : DispatchAction} (hs : DispatchStep runtime w a w')
    (h : w.Accounts n) : w'.Accounts n := by
  cases hs with
  | begin session invocation hs => exact h.begin hs
  | poll before after hw hs => exact h.poll hw hs
  | outsideTakes free hfree =>
    have hpermits := h.permits
    refine ⟨?_, h.deliveries, h.calls, h.made⟩
    show free + (w.others + 1) + w.executing = n
    omega
  | outsideReturns others hothers =>
    have hpermits := h.permits
    refine ⟨?_, h.deliveries, h.calls, h.made⟩
    show w.free + 1 + others + w.executing = n
    omega
  | outsideCalls session hcall => exact h.setScope rfl id hcall.extends
  | closing session => exact h.setScope rfl (fun _ => rfl) (.refl _)
  | closed session error hclosed => exact h.setScope rfl id (.refl _)

theorem accounts_of_reachable (hw : (dispatchSystem runtime).Reachable w) :
    w.Accounts runtime.permits := by
  refine hw.invariant (P := Accounts runtime.permits) ?_ fun w a w' hs h => Accounts.step hs h
  rintro w ⟨hpermits, hcalls, hscopes⟩
  refine ⟨?_, fun session => ?_, ?_, fun session => (hscopes session).2⟩
  · rw [executing, hcalls, List.countP_nil]
    exact hpermits
  · rw [delivering, hcalls, List.countP_nil, (hscopes session).1]
    exact runtime.deliveryCapacity_eq
  · intro c hc
    rw [hcalls] at hc
    cases hc

/-- With no call under way every permit is back. -/
theorem Accounts.idle (h : w.Accounts n) (hended : ∀ c ∈ w.calls, c.ended = true) :
    w.free + w.others = n ∧ ∀ session, (w.scopes session).overloadPermits = n := by
  have hnone : ∀ c ∈ w.calls, c.holdsPermit = false ∧ c.holdsDelivery = false := by
    intro c hc
    have hc := hended c hc
    unfold DispatchCall.ended at hc
    unfold DispatchCall.holdsPermit DispatchCall.holdsDelivery
    split at hc <;> simp_all
  constructor
  · have hzero : w.executing = 0 :=
      List.countP_eq_zero.mpr fun c hc => by simp [(hnone c hc).1]
    have hpermits := h.permits
    omega
  · intro session
    have hzero : w.delivering session = 0 :=
      List.countP_eq_zero.mpr fun c hc => by simp [(hnone c hc).2]
    have hdeliveries := h.deliveries session
    omega

/-- How a call begins is decided by what is held at that time. -/
theorem Accounts.begin_cases (h : w.Accounts n)
    (hs : DispatchBegin runtime w session invocation w') : ∃ c, w'.calls = w.calls ++ [c] ∧
      c.session = session ∧ c.invocation = invocation ∧
      (c.phase = .refused ↔ runtime.isDuplex invocation = true) ∧
      (c.phase = .begun ↔ runtime.isDuplex invocation = false ∧ w.executing + w.others < n) ∧
      (c.phase = .overloaded ↔ runtime.isDuplex invocation = false ∧
        w.executing + w.others = n ∧ w.delivering session < n) ∧
      (c.phase = .returned (.error .deliverySaturated) ↔ runtime.isDuplex invocation = false ∧
        w.executing + w.others = n ∧ w.delivering session = n) := by
  have hpermits := h.permits
  have hdeliveries := h.deliveries session
  cases hs with
  | duplex hduplex => exact ⟨_, rfl, rfl, rfl, by simp [hduplex]⟩
  | permit free hduplex hfree =>
    have hlt : w.executing + w.others < n := by omega
    exact ⟨_, rfl, rfl, rfl, by simp [hduplex, hlt, hlt.ne]⟩
  | overload permits hduplex hfree hoverloads =>
    have heq : w.executing + w.others = n := by omega
    have hlt : w.delivering session < n := by omega
    exact ⟨_, rfl, rfl, rfl, by simp [hduplex, heq, hlt, hlt.ne]⟩
  | saturated hduplex hfree hoverloads =>
    have heq : w.executing + w.others = n := by omega
    have hfull : w.delivering session = n := by omega
    exact ⟨_, rfl, rfl, rfl, by simp [hduplex, heq, hfull]⟩

end DispatchRun

theorem lookup_dropGuard {m : ActiveInvocations} {g : ActiveInvocation} {id : String}
    (h : g.id ≠ id) : (m.dropGuard g).inner.lookup id = m.inner.lookup id := by
  rw [(m.dropGuard_keeps g).1, AList.lookup_erase_ne h.symm]

/-- A call that returns before a result was asked to be sent found its session closed. It has
cancelled what was tracked for the session, and nothing is tracked any more. -/
theorem closed_of_returned {answer : Except RuntimeError Unit} (h : w.Accounts n)
    (hw : w.calls = before ++ c :: after) (hs : DispatchPoll runtime w before after c w')
    (hreturned : w'.calls = before ++ { c with phase := .returned answer } :: after)
    (hasked : c.asked = []) : ∃ error, (w.scopes c.session).closed = some error ∧
      answer = .error (.client error) ∧ (w'.scopes c.session).active.inner = ∅ ∧
      ∀ id e, (w.scopes c.session).active.inner.lookup id = some e →
        (∀ g, c.guarded = some g → g.id ≠ id) →
        (w'.scopes c.session).active.Cancelled e.cancellation := by
  have hc : c.Sound (w.scopes c.session).closing := h.calls c (hw ▸ mem_middle.mpr (.inl rfl))
  unfold DispatchCall.Sound at hc
  have hphase : ∀ c' : DispatchCall, before ++ c' :: after =
      before ++ ({ c with phase := .returned answer } : DispatchCall) :: after →
      c'.phase = .returned answer := by
    intro c' he
    exact congrArg DispatchCall.phase (List.cons.inj (List.append_cancel_left he)).1
  cases hs with
  | sent _ hbefore => rcases hbefore with hbefore | hbefore <;> simp [hbefore, hasked] at hc
  | track _ _ _ => nomatch hphase _ hreturned
  | answered _ _ _ => nomatch hphase _ hreturned
  | completed hbefore => simp [hbefore, hasked] at hc
  | failed _ hbefore => simp [hbefore, hasked] at hc
  | dropped _ => nomatch hphase _ hreturned
  | @closed guarded error hbefore hclosed =>
    have hanswer : answer = .error (.client error) := by
      have hsame := hphase _ hreturned
      cases hsame
      rfl
    have hmade : ∀ m : ActiveInvocations, (w.scopes c.session).active.Extends m →
        m.TokensMade := fun m hm => hm.tokensMade (h.made c.session)
    refine ⟨error, hclosed, hanswer, ?_, ?_⟩
    · show ((DispatchRun.setScope _ c.session _).scopes c.session).active.inner = ∅
      rw [DispatchRun.setScope_self]
      exact (ActiveInvocations.cancelAll_keeps _).1
    · intro id e he hother
      show ((DispatchRun.setScope _ c.session _).scopes c.session).active.Cancelled _
      rw [DispatchRun.setScope_self]
      show ActiveInvocations.Cancelled (((DispatchRun.setScope w c.session _).scopes
        c.session).active.cancelAll) _
      rw [DispatchRun.setScope_self]
      dsimp only
      split
      · exact ActiveInvocations.cancelled_cancelAll (hmade _ (.refl _)) _
          (AList.mem_lookup_iff.mp he)
      · next g hg =>
        have hkept := @lookup_dropGuard (w.scopes c.session).active
          { g with cancelOnDrop := g.cancelOnDrop && true } id (hother g hg)
        exact ActiveInvocations.cancelled_cancelAll
          (hmade _ (ActiveInvocations.extends_dropGuard _ _)) ⟨id, e⟩
          (AList.mem_lookup_iff.mp (hkept.trans he))

end

/-- Dispatched invocations share the permits of their runtime, whatever else runs on it: no more of
them execute than there are permits, and each permit is back when its call is over. A duplex
invocation is refused as such. Any other begins exactly when a permit is free; when every permit is
held it is refused for overload, unless as many refusals of its session are being sent as there are
permits, which ends the session as saturated. At most one result of a call is asked to be sent, and
a call that waits and returns without it found its session closed and cancelled what else was
tracked for it. -/
theorem dispatch_accounts {H P : Type} (runtime : CommandRuntime H P) (w : DispatchRun)
    (hw : (dispatchSystem runtime).Reachable w) :
    (w.free + w.others + w.executing = runtime.permits ∧ ∀ session,
      (w.scopes session).overloadPermits + w.delivering session = runtime.permits) ∧
    ((∀ c ∈ w.calls, c.ended = true) → w.free + w.others = runtime.permits ∧
      ∀ session, (w.scopes session).overloadPermits = runtime.permits) ∧
    (∀ c ∈ w.calls, c.Sound (w.scopes c.session).closing ∧ c.asked.length ≤ 1) ∧
    (∀ session invocation w', DispatchBegin runtime w session invocation w' →
      ∃ c, w'.calls = w.calls ++ [c] ∧ c.session = session ∧ c.invocation = invocation ∧
        (c.phase = .refused ↔ runtime.isDuplex invocation = true) ∧
        (c.phase = .begun ↔ runtime.isDuplex invocation = false ∧
          w.executing + w.others < runtime.permits) ∧
        (c.phase = .overloaded ↔ runtime.isDuplex invocation = false ∧
          w.executing + w.others = runtime.permits ∧ w.delivering session < runtime.permits) ∧
        (c.phase = .returned (.error .deliverySaturated) ↔ runtime.isDuplex invocation = false ∧
          w.executing + w.others = runtime.permits ∧ w.delivering session = runtime.permits)) ∧
    ∀ before after c w' answer, w.calls = before ++ c :: after →
      DispatchPoll runtime w before after c w' →
      w'.calls = before ++ { c with phase := .returned answer } :: after → c.asked = [] →
      ∃ error, (w.scopes c.session).closed = some error ∧ answer = .error (.client error) ∧
        (w'.scopes c.session).active.inner = ∅ ∧
        ∀ id e, (w.scopes c.session).active.inner.lookup id = some e →
          (∀ g, c.guarded = some g → g.id ≠ id) →
          (w'.scopes c.session).active.Cancelled e.cancellation := by
  have h := DispatchRun.accounts_of_reachable hw
  refine ⟨⟨h.permits, h.deliveries⟩, h.idle,
    fun c hc => ⟨h.calls c hc, (h.calls c hc).length_le⟩,
    fun session invocation w' hs => h.begin_cases hs, ?_⟩
  intro before after c w' answer hcalls hs hreturned hasked
  exact closed_of_returned h hcalls hs hreturned hasked

/-- A runtime of one permit on which nothing runs yet. -/
def idleDispatch : DispatchRun :=
  ⟨1, 0, fun _ => ⟨.empty, 1, false, none⟩, []⟩

/-- Three invocations are dispatched on one session: the first executes, the second is refused for
overload, and the third ends the session. -/
theorem dispatched_thrice : ∃ w : DispatchRun, w.executing + w.others = 1 ∧ w.delivering 0 = 1 ∧
    (w.scopes 0).closing = true ∧
    ((∀ c ∈ w.calls, c.ended = true) → w.free + w.others = oneAtATime.permits ∧
      ∀ session, (w.scopes session).overloadPermits = oneAtATime.permits) := by
  have hinitial : idleDispatch.Initial oneAtATime :=
    ⟨rfl, rfl, fun _ => ⟨rfl, fun _ _ he => nomatch he⟩⟩
  have h₀ : (dispatchSystem oneAtATime).Reachable _ := .initial hinitial
  have h₁ := h₀.step (.begin 0 (numberedInvocation "invoke-0") (.permit 0 rfl rfl))
  have h₂ := h₁.step (.begin 0 (numberedInvocation "invoke-1") (.overload 0 rfl rfl rfl))
  have h₃ := h₂.step (.begin 0 (numberedInvocation "invoke-2") (.saturated rfl rfl rfl))
  obtain ⟨-, hidle, -⟩ := dispatch_accounts oneAtATime _ h₃
  exact ⟨_, rfl, rfl, rfl, hidle⟩

end OpenclawNode.Node
