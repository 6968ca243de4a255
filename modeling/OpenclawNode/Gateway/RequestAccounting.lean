import OpenclawNode.Base.Permits
import OpenclawNode.Gateway.Session

/-! Where requests are, and which permits and ids they use. -/
namespace OpenclawNode.Gateway

open Node (Nanos)
open Permits (Accounted)

variable {n : Nat} {writeTimeout : Nanos} {s s' : SessionRun} {a : SessionActor}
  {gone : Multiset Request}

namespace SessionRun

/-- The requests that are waiting to be queued, queued, being written or pending. -/
def held (s : SessionRun) : Multiset Request :=
  ↑s.sending + ↑(queuedRequests s.queue) + ↑s.phase.writing + ↑s.pending

/-- The requests that may still come to the wire. -/
def unsent (s : SessionRun) : Multiset Request :=
  ↑s.sending + ↑(queuedRequests s.queue) + ↑s.phase.unsent

/-- The ids that are on the wire, refused, or may still come to the wire. -/
def spoken (s : SessionRun) : Multiset String :=
  ↑(s.wire.map WireRequest.id) + ↑(s.refused.map Prod.fst) + s.unsent.map Request.id

end SessionRun

@[simp] theorem writing_top : SessionPhase.top.writing = [] := rfl

@[simp] theorem unsent_top : SessionPhase.top.unsent = [] := rfl

@[simp] theorem writing_ended : SessionPhase.ended.writing = [] := rfl

@[simp] theorem unsent_ended : SessionPhase.ended.unsent = [] := rfl

@[simp] theorem queuedRequests_nil : queuedRequests [] = [] := rfl

@[simp] theorem queuedRequests_request (r : Request) (queue : List SessionCommand) :
    queuedRequests (.request r :: queue) = r :: queuedRequests queue := rfl

@[simp] theorem queuedRequests_cancelRequest (id : String) (queue : List SessionCommand) :
    queuedRequests (.cancelRequest id :: queue) = queuedRequests queue := rfl

@[simp] theorem queuedRequests_append (queue rest : List SessionCommand) :
    queuedRequests (queue ++ rest) = queuedRequests queue ++ queuedRequests rest :=
  List.filterMap_append

/-- The step only moves and drops requests: each dropped one returns its permit, and no id that was
on the wire or refused comes up again. -/
structure SessionRun.Drops (s s' : SessionRun) (gone : Multiset Request) : Prop where
  held : s.held = gone + s'.held
  permits : (s'.permits : Multiset ℕ) = s.permits + gone.map Request.permit
  spoken : s'.spoken ≤ s.spoken
  assigned : s'.assigned = s.assigned
  nextRequestId : s'.nextRequestId = s.nextRequestId

theorem coe_filter_add {α : Type*} (p q : α → Bool) (h : ∀ a, q a = !p a) (l : List α) :
    (l : Multiset α) = ↑(l.filter p) + ↑(l.filter q) := by
  have hq : q = fun a => !p a := funext h
  subst hq
  rw [Multiset.coe_add]
  exact Multiset.coe_eq_coe.mpr (List.filter_append_perm p l).symm

section

open SessionRun

/-- A step of a caller that touches no request. -/
theorem drops_setCaller (i : Nat) (c : Caller) : s.Drops (s.setCaller i c) 0 where
  held := by simp [held, setCaller]
  permits := by simp [setCaller]
  spoken := le_of_eq rfl
  assigned := rfl
  nextRequestId := rfl

/-- A step of the session between requests. -/
theorem drops_phase {phase : SessionPhase} {now : Nanos} {closed : Option SessionCloseCause}
    (hw : s.phase.writing = []) (hw' : phase.writing = []) (hu' : phase.unsent = []) :
    s.Drops { s with phase := phase, now := now, closed := closed } 0 where
  held := by simp [held, hw, hw']
  permits := by simp
  spoken := by
    simp only [spoken, unsent, hu', Multiset.map_add]
    gcongr
    simp
  assigned := rfl
  nextRequestId := rfl

/-- Pending requests are dropped, with or without an answer. -/
theorem drops_pending {p q : Request → Bool} {answer : Request → Option Reply}
    {phase : SessionPhase} {arrivals : List Arrival} (h : ∀ r, q r = !p r)
    (hw : s.phase.writing = []) (hw' : phase.writing = []) (hu' : phase.unsent = []) :
    s.Drops { s.settle (s.pending.filter p) answer with
      pending := s.pending.filter q, phase := phase, arrivals := arrivals }
      ↑(s.pending.filter p) where
  held := by
    simp only [held, settle, hw, hw', coe_filter_add p q h s.pending]
    abel
  permits := by simp [settle]
  spoken := by
    simp only [spoken, unsent, settle, hu', Multiset.map_add]
    gcongr
    simp
  assigned := rfl
  nextRequestId := rfl

/-- A caller gives up a request that is not queued yet. -/
theorem drops_sending {before after : List Request} {r : Request} {i : Nat} {c : Caller}
    {answer : Request → Option Reply} (h : s.sending = before ++ r :: after) :
    s.Drops (({ s with sending := before ++ after }.settle [r] answer).setCaller i c) {r} where
  held := by
    have hs : (s.sending : Multiset Request) = {r} + ↑(before ++ after) := by
      rw [h, Multiset.singleton_add, Multiset.cons_coe, Multiset.coe_eq_coe]
      exact List.perm_middle
    simp only [held, settle, setCaller, hs]
    abel
  permits := by simp only [settle, setCaller, ← Multiset.coe_add]; rfl
  spoken := by
    have hs : (↑(before ++ after) : Multiset Request) ≤ ↑s.sending := by
      rw [h, Multiset.coe_le]
      exact ((List.sublist_cons_self r after).append_left before).subperm
    simp only [spoken, unsent, settle, setCaller, Multiset.map_add]
    gcongr
  assigned := rfl
  nextRequestId := rfl

/-- A request leaves the queue or the socket unwritten, refused or not. -/
theorem drops_unsent {queue : List SessionCommand} {r : Request} {phase : SessionPhase}
    {answer : Request → Option Reply} {refused : List (String × Refusal)}
    (h : (queuedRequests s.queue : Multiset Request) + ↑s.phase.unsent =
      {r} + ↑(queuedRequests queue))
    (hw : s.phase.writing = s.phase.unsent) (hw' : phase.writing = []) (hu' : phase.unsent = [])
    (hr : refused = s.refused ∨ ∃ why, refused = s.refused ++ [(r.id, why)]) :
    s.Drops { s.settle [r] answer with queue := queue, phase := phase, refused := refused }
      {r} where
  held := by
    have hs : s.held = ↑s.sending + (↑(queuedRequests s.queue) + ↑s.phase.unsent) + ↑s.pending := by
      rw [held, hw]
      abel
    rw [hs, h]
    simp only [held, settle, hw']
    abel
  permits := by simp only [settle, ← Multiset.coe_add]; rfl
  spoken := by
    have hs : s.unsent = ↑s.sending + ({r} + ↑(queuedRequests queue)) := by
      rw [unsent, ← h]
      abel
    have hle : (queuedRequests queue : Multiset Request) ≤ {r} + ↑(queuedRequests queue) :=
      Multiset.le_add_left _ _
    rcases hr with rfl | ⟨why, rfl⟩
    · rw [spoken, spoken, hs]
      simp only [unsent, settle, hu', Multiset.coe_nil, add_zero]
      gcongr
    · apply le_of_eq
      rw [spoken, spoken, hs]
      simp only [unsent, settle, hu', Multiset.coe_nil, add_zero, List.map_append,
        ← Multiset.coe_add, Multiset.map_add, Multiset.map_singleton, List.map_cons, List.map_nil,
        Multiset.coe_singleton]
      abel
  assigned := rfl
  nextRequestId := rfl

/-- A request moves on with its permit. -/
theorem drops_moved {phase : SessionPhase} {wire : List WireRequest} {pending : List Request}
    {sending : List Request} {queue : List SessionCommand}
    {callers : Nat → Option Caller} {now : Nanos}
    (hheld : s.held = ↑sending + ↑(queuedRequests queue) + ↑phase.writing + ↑pending)
    (hspoken : (↑(wire.map WireRequest.id) : Multiset String) +
        (↑sending + ↑(queuedRequests queue) + ↑phase.unsent : Multiset Request).map Request.id =
      ↑(s.wire.map WireRequest.id) + s.unsent.map Request.id) :
    s.Drops { s with
      phase := phase, wire := wire, pending := pending, sending := sending, queue := queue,
      callers := callers, now := now } 0 where
  held := by rw [hheld, zero_add]; rfl
  permits := by simp
  spoken := by
    apply le_of_eq
    have hs : s.spoken = ↑(s.wire.map WireRequest.id) + s.unsent.map Request.id +
        ↑(s.refused.map Prod.fst) := by
      rw [spoken]
      abel
    rw [hs, ← hspoken]
    simp only [spoken, unsent]
    abel
  assigned := rfl
  nextRequestId := rfl

/-- The request that is being written fails. -/
theorem drops_write {r : Request} {phase : SessionPhase} {answer : Request → Option Reply}
    (hw : s.phase.writing = [r]) (hw' : phase.writing = []) (hu' : phase.unsent = []) :
    s.Drops { s.settle [r] answer with phase := phase } {r} where
  held := by
    simp only [held, settle, hw, hw', Multiset.coe_singleton, Multiset.coe_nil]
    abel
  permits := by simp only [settle, ← Multiset.coe_add]; rfl
  spoken := by
    simp only [spoken, unsent, settle, hu', Multiset.map_add]
    gcongr
    simp
  assigned := rfl
  nextRequestId := rfl

/-- The written request becomes pending in place of what was under its id. -/
theorem drops_insertPending {r : Request} (hw : s.phase.writing = [r])
    (hu : s.phase.unsent = []) :
    s.Drops (s.insertPending r) ↑(s.pending.filter (·.id = r.id)) where
  held := by
    simp only [held, insertPending, settle, hw, writing_top, ← Multiset.coe_add,
      coe_filter_add (fun q : Request => decide (q.id = r.id))
        (fun q => decide (¬ q.id = r.id)) (by simp) s.pending]
    simp only [Multiset.coe_nil, Multiset.coe_singleton]
    abel
  permits := by simp [insertPending, settle]
  spoken := by
    simp only [spoken, unsent, insertPending, settle, hu, unsent_top, le_refl]
  assigned := rfl
  nextRequestId := rfl

theorem drops_failPending {r : Request} {rest : List Request} {answer : Request → Option Reply}
    (h : s.pending = r :: rest) :
    s.Drops ({ s with pending := rest }.settle [r] answer) {r} where
  held := by
    have hs : (s.pending : Multiset Request) = {r} + ↑rest := by
      rw [h, Multiset.singleton_add, Multiset.cons_coe]
    simp only [held, settle, hs]
    abel
  permits := by simp only [settle, ← Multiset.coe_add]; rfl
  spoken := le_of_eq rfl
  assigned := rfl
  nextRequestId := rfl

theorem drops_dropQueue (hw : s.phase.writing = []) :
    s.Drops s.dropQueue ↑(queuedRequests s.queue) where
  held := by
    simp only [held, dropQueue, settle, hw, writing_ended, queuedRequests_nil,
      Multiset.coe_nil]
    abel
  permits := by simp [dropQueue, settle]
  spoken := by
    simp only [spoken, unsent, dropQueue, settle, unsent_ended, queuedRequests_nil,
      Multiset.map_add, Multiset.coe_nil, add_zero]
    gcongr
    rw [add_assoc]
    exact Multiset.le_add_right _ _
  assigned := rfl
  nextRequestId := rfl

theorem drops_cancelRequest {id : String} {rest : List SessionCommand}
    (hq : s.queue = .cancelRequest id :: rest)
    (h : SessionRun.Drops { s with queue := rest } s' gone) : s.Drops s' gone where
  held := by
    have hs : s.held = held { s with queue := rest } := by simp [held, hq]
    rw [hs]
    exact h.held
  permits := h.permits
  spoken := by
    have hs : s.spoken = spoken { s with queue := rest } := by simp [spoken, unsent, hq]
    rw [hs]
    exact h.spoken
  assigned := h.assigned
  nextRequestId := h.nextRequestId

/-- Everything that happens to requests: one is issued with a fresh id and a free permit, or some
are moved and dropped. -/
theorem step_drops (hs : SessionStep n writeTimeout s a s') :
    (∃ gone, s.Drops s' gone) ∨
    ∃ i c permit rest, s.callers i = some c ∧ c.phase = .waitingPermit ∧
      s.permits = permit :: rest ∧ s' = s.acquire i c permit rest := by
  cases hs with
  | acquire hc hp hf => exact Or.inr ⟨_, _, _, _, hc, hp, hf, rfl⟩
  | call | callEmpty | permitTimeout _ _ _ | permitDropped _ _ | receive _ _ _
  | receiveClosed _ _ _ | replyTimeout _ _ _ _ | replyDropped _ _ | setCancelled _ _
  | loseCancel _ _ _ => exact Or.inl ⟨_, drops_setCaller _ _⟩
  | @enqueue i c r before after hc hp hsend hi hroom hopen =>
    have hs : (s.sending : Multiset Request) = {r} + ↑(before ++ after) := by
      rw [hsend, Multiset.singleton_add, Multiset.cons_coe, Multiset.coe_eq_coe]
      exact List.perm_middle
    have hq : (queuedRequests (s.queue ++ [.request r]) : Multiset Request) =
        ↑(queuedRequests s.queue) + {r} := by
      rw [queuedRequests_append, ← Multiset.coe_add]
      rfl
    refine Or.inl ⟨0, drops_moved ?_ ?_⟩
    · rw [held, hs, hq]
      abel
    · rw [unsent, hs, hq]
      simp only [setCaller, Multiset.map_add]
      abel
  | sendTimeout _ _ hsend _ _ | sendDropped _ _ hsend _ | sendClosed _ _ hsend _ _ =>
    exact Or.inl ⟨_, drops_sending hsend⟩
  | @offerCancel i c id hc hp hid hroom hopen =>
    refine Or.inl ⟨0, drops_moved ?_ ?_⟩
    · simp [held, setCaller]
    · simp [unsent, setCaller]
  | purge seen hp _ =>
    exact Or.inl ⟨_, drops_pending (fun r => rfl) (by rw [hp]; rfl) rfl rfl⟩
  | closeByClient hp => exact Or.inl ⟨_, drops_phase (by rw [hp]; rfl) rfl rfl⟩
  | expire hp _ =>
    exact Or.inl ⟨_, drops_pending (fun r => decide_not) (by rw [hp]; rfl) rfl rfl⟩
  | @request r rest later hp hq hl =>
    have hmove : (queuedRequests s.queue : Multiset Request) + ↑s.phase.unsent =
        {r} + ↑(queuedRequests rest) := by
      rw [hp, hq]
      simp [SessionPhase.unsent]
    have hw : s.phase.writing = s.phase.unsent := by rw [hp]; rfl
    unfold onRequest
    split
    · exact Or.inl ⟨_, drops_unsent hmove hw rfl rfl (Or.inr ⟨_, rfl⟩)⟩
    · split
      · exact Or.inl ⟨_, drops_unsent hmove hw rfl rfl (Or.inr ⟨_, rfl⟩)⟩
      · refine Or.inl ⟨0, drops_moved ?_ ?_⟩
        · simp only [held, hp, hq, SessionPhase.writing, queuedRequests_request]
          rw [← Multiset.cons_coe r, ← Multiset.singleton_add, Multiset.coe_singleton,
            Multiset.coe_nil]
          abel
        · simp only [unsent, hp, hq, SessionPhase.unsent, queuedRequests_request]
          rw [← Multiset.cons_coe r (queuedRequests rest), ← Multiset.singleton_add,
            Multiset.coe_singleton, Multiset.coe_nil]
          simp only [Multiset.map_add]
          abel
  | @cancelRequest id rest hp hq =>
    exact Or.inl ⟨_, drops_cancelRequest hq (drops_pending (fun r => by simp)
      (by rw [hp]; rfl) rfl rfl)⟩
  | message message hp =>
    have hw : s.phase.writing = [] := by rw [hp]; rfl
    rcases message with _ | ⟨id, ok, payload, error⟩ | _ | (_ | _ | _) | _ | _ | _ | _
    case response => exact Or.inl ⟨_, drops_pending (fun r => by simp) hw rfl rfl⟩
    all_goals exact Or.inl ⟨0, drops_phase hw rfl rfl⟩
  | @start r expires wins hp =>
    refine Or.inl ⟨0, drops_moved ?_ ?_⟩
    · simp [held, hp, SessionPhase.writing]
    · simp only [unsent, hp, SessionPhase.unsent, List.map_append, ← Multiset.coe_add,
        Multiset.map_add]
      simp only [List.map_cons, List.map_nil, Multiset.coe_singleton, Multiset.coe_nil,
        Multiset.map_singleton, Multiset.map_zero]
      abel
  | @rejectByGuard r expires wins reason hp _ =>
    have hmove : (queuedRequests s.queue : Multiset Request) + ↑s.phase.unsent =
        {r} + ↑(queuedRequests s.queue) := by
      rw [hp, add_comm]
      rfl
    exact Or.inl ⟨_, drops_unsent hmove (by rw [hp]; rfl) rfl rfl (Or.inr ⟨_, rfl⟩)⟩
  | written hp => exact Or.inl ⟨_, drops_insertPending (by rw [hp]; rfl) (by rw [hp]; rfl)⟩
  | @failWrite r expires wins failure hp _ =>
    have hw : s.phase.writing = [r] := by rcases hp with hp | hp <;> rw [hp] <;> rfl
    cases failure with
    | timedOut => exact Or.inl ⟨_, drops_write hw rfl rfl⟩
    | transport error => exact Or.inl ⟨_, drops_write hw rfl rfl⟩
  | failPending _ hpending => exact Or.inl ⟨_, drops_failPending hpending⟩
  | announce hp _ => exact Or.inl ⟨_, drops_phase (by rw [hp]; rfl) rfl rfl⟩
  | dropQueue hp => exact Or.inl ⟨_, drops_dropQueue (by rw [hp]; rfl)⟩
  | tick later _ => exact Or.inl ⟨0, drops_moved rfl rfl⟩

end

end OpenclawNode.Gateway
