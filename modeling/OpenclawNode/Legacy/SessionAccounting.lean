import OpenclawNode.Legacy.SessionCaller
import OpenclawNode.Legacy.SessionTask

/-! Every permit has its caller, and every request that a caller waits for is with the session. -/
namespace OpenclawNode.Legacy

open Gateway (WireRequest)
open Node (Nanos)
open SessionRun

variable {n maxInFlight i : Nat} {requestTimeout : Nanos} {s s' : SessionRun} {a : SessionActor}
  {c c' : Caller} {gone : List Request} {answer : Request → Option Reply}

theorem SessionRun.Sound.settle (h : s.Sound n) (hd : s.Settles s' gone answer) : s'.Sound n where
  named := h.named.evolve (hd.evolves h.owes) hd.nextRequestId hd.assigned hd.spoken
  owes := h.owes.settle h.named hd
  permitted := h.permitted.settle hd

theorem sound_step (hs : SessionStep n requestTimeout s a s')
    (hroom : s'.assigned.length < 2 ^ 64) (h : s.Sound n) : s'.Sound n := by
  cases a with
  | caller i => exact sound_caller hs hroom h
  | handle | session | clock =>
    obtain ⟨gone, answer, hd⟩ := h.owes.settles h.named hs nofun
    exact h.settle hd

theorem assigned_step (hs : SessionStep n requestTimeout s a s') :
    s.assigned.length ≤ s'.assigned.length := by
  cases hs with
  | acquire => simp [SessionRun.acquire]
  | message message _ =>
    rcases message with _ | _ | _ | (_ | _) | _ | _ | _ | _ <;> exact Nat.le_refl _
  | _ => exact Nat.le_refl _

theorem sound_initial (hi : (sessionSystem maxInFlight requestTimeout).Initial s) :
    s.Sound (max maxInFlight 1) := by
  obtain ⟨now, params, rfl⟩ := hi
  have hnone : ∀ r : Request, r ∉ (0 : Multiset Request) := Multiset.notMem_zero
  refine ⟨⟨.initial, ?_, ?_, ?_, Multiset.nodup_singleton connectId, fun id hid => ?_⟩,
    ⟨Multiset.nodup_zero, fun r hr => absurd hr (hnone r), ?_, ?_, ?_, ?_, ?_⟩, ?_, fun i => ?_⟩
  · intro i c hc
    cases hc
  · intro i c id hc
    cases hc
  · intro i j c d id hc
    cases hc
  · exact Or.inl (Multiset.mem_singleton.mp hid)
  · intro i c deadline hc
    cases hc
  · intro i c deadline hc
    cases hc
  · intro id hid
    cases hid
  · intro hp
    cases hp
  · intro hp
    cases hp
  · exact Nat.add_zero _
  · simp

theorem sound_reachable (hs : (sessionSystem maxInFlight requestTimeout).Reachable s)
    (hfew : s.assigned.length < 2 ^ 64) : s.Sound (max maxInFlight 1) := by
  refine hs.invariant
    (P := fun s => s.assigned.length < 2 ^ 64 → s.Sound (max maxInFlight 1)) ?_ ?_ hfew
  · intro s hi _
    exact sound_initial hi
  · intro s a s' hs ih hroom
    exact sound_step hs hroom (ih (Nat.lt_of_le_of_lt (assigned_step hs) hroom))

/-- What a call that was sent returns: what its reply holds, that it timed out, or why the session
has ended. -/
def Caller.Returns (s : SessionRun) (c : Caller) (result : Reply) : Prop :=
  c.reply = .value result ∨ c.phase = .cancelling ∧ result = .error (.requestTimeout c.method) ∨
    s.phase = .ended ∧ result = .error s.closedError

/-- What a step does to a caller: the reply that it has is not replaced, and it returns one thing. -/
structure Caller.Steps (s : SessionRun) (c c' : Caller) : Prop where
  reply : ∀ reply, c.reply = .value reply → c'.reply = .value reply
  observed : c'.observed = c.observed ∨
    ∃ result, c'.observed = c.observed ++ [result] ∧ c.Returns s result

theorem Caller.Steps.refl (s : SessionRun) (c : Caller) : c.Steps s c :=
  ⟨fun _ h => h, Or.inl rfl⟩

/-- Only the caller that takes the step returns. -/
theorem steps_update {j : Nat} {d d' : Caller} (hd : s.callers j = some d)
    (hs : s'.callers = Function.update s.callers j (some d')) (h : d.Steps s d')
    (hc : s.callers i = some c) : ∃ c', s'.callers i = some c' ∧ c.Steps s c' := by
  rw [hs]
  by_cases hi : i = j
  · subst hi
    cases hd.symm.trans hc
    exact ⟨d', Function.update_self .., h⟩
  · exact ⟨c, by rw [Function.update_of_ne hi, hc], .refl s c⟩

theorem steps_new {j : Nat} {d' : Caller} (hd : s.callers j = none)
    (hs : s'.callers = Function.update s.callers j (some d')) (hc : s.callers i = some c) :
    ∃ c', s'.callers i = some c' ∧ c.Steps s c' := by
  have hi : i ≠ j := by
    rintro rfl
    cases hd.symm.trans hc
  exact ⟨c, by rw [hs, Function.update_of_ne hi, hc], .refl s c⟩

theorem steps_settle (h : s.Owes)
    (hd : s.Settles s' gone answer) (hc : s.callers i = some c) :
    ∃ c', s'.callers i = some c' ∧ c.Steps s c' := by
  obtain ⟨c', hc', -⟩ := (hd.evolves h).old i c hc
  refine ⟨c', hc', ?_⟩
  rw [hd.callers] at hc'
  rcases settle_cases hc' with ⟨hsame, -⟩ | ⟨r, hr, d, rfl, hd', rfl⟩
  · cases hsame.symm.trans hc
    exact .refl s c
  · obtain ⟨e, he, -, -, hwaiting, -⟩ := h.owner r (hd.mem_gone hr)
    cases he.symm.trans hd'
    cases hd'.symm.trans hc
    refine ⟨fun reply hreply => ?_, Or.inl ?_⟩
    · cases hwaiting.symm.trans hreply
    · cases answer r <;> rfl

theorem steps_caller {j : Nat} (h : s.Owes) (hs : SessionStep n requestTimeout s (.caller j) s')
    (hc : s.callers i = some c) : ∃ c', s'.callers i = some c' ∧ c.Steps s c' := by
  have hkept : ∀ (d : Caller) (id : Option String) (phase : CallerPhase),
      d.Steps s { d with id := id, phase := phase } :=
    fun d id phase => ⟨fun _ h => h, Or.inl rfl⟩
  have hreturn : ∀ (d : Caller) (result : Reply), d.Returns s result → d.Steps s (d.finish result) :=
    fun d result h => ⟨fun _ h => h, Or.inr ⟨result, rfl, h⟩⟩
  cases hs with
  | call method params hd _ => exact steps_new hd rfl hc
  | callEmpty params hd => exact steps_new hd rfl hc
  | acquire hd hp _ => exact steps_update hd rfl (hkept _ _ _) hc
  | permitDropped hd hp => exact steps_update hd rfl (hkept _ _ _) hc
  | enqueue hd hp _ _ _ => exact steps_update hd rfl (hkept _ _ _) hc
  | sendDropped hd hp => exact steps_update hd rfl (hkept _ _ _) hc
  | sendClosed hd hp hended =>
    exact steps_update hd rfl (hreturn _ _ (Or.inr (Or.inr ⟨hended, rfl⟩))) hc
  | receive hd hp hr => exact steps_update hd rfl (hreturn _ _ (Or.inl hr)) hc
  | receiveClosed hd hp hr =>
    have hended := h.shut _ _ _ hd hp hr
    exact steps_update hd rfl (hreturn _ _ (Or.inr (Or.inr ⟨hended, rfl⟩))) hc
  | elapse hd hp _ _ => exact steps_update hd rfl (hkept _ _ _) hc
  | cancel hd hp _ =>
    exact steps_update hd rfl (hreturn _ _ (Or.inr (Or.inl ⟨hp, rfl⟩))) hc
  | replyDropped hd hp => exact steps_update hd rfl (hkept _ _ _) hc

theorem steps_step (h : s.Sound n) (hs : SessionStep n requestTimeout s a s')
    (hc : s.callers i = some c) : ∃ c', s'.callers i = some c' ∧ c.Steps s c' := by
  cases a with
  | caller j => exact steps_caller h.owes hs hc
  | handle | session | clock =>
    obtain ⟨gone, answer, hd⟩ := h.owes.settles h.named hs nofun
    exact steps_settle h.owes hd hc

/-- Permits and callers balance. The request of a caller that waits is with the session, or its
reply is there, or the session has ended. What the session owes an answer has a caller that waits
or gave up, and a session that has ended owes nothing. No id comes to the wire twice, no reply is
replaced, and a call returns once. -/
theorem session_accounts (maxInFlight : Nat) (requestTimeout : Nanos) (s : SessionRun)
    (hs : (sessionSystem maxInFlight requestTimeout).Reachable s)
    (hfew : s.assigned.length < 2 ^ 64) :
    s.inFlight + s.holders.card = max maxInFlight 1 ∧
    (∀ i, i ∈ s.holders ↔ ∃ c, s.callers i = some c ∧ c.phase.holdsPermit = true) ∧
    (∀ i c deadline, s.callers i = some c → c.phase = .waitingReply deadline →
      (c.reply = .waiting → ∃ r ∈ s.owed, r.caller = i) ∧ (c.reply = .closed → s.phase = .ended)) ∧
    (∀ r ∈ s.owed, ∃ c, s.callers r.caller = some c ∧ c.id = some r.id ∧ c.method = r.method ∧
      c.reply = .waiting ∧ s.Accounted c r.id) ∧
    (s.owed.map Request.caller).Nodup ∧
    (s.phase = .ended → s.owed = 0 ∧ ∃ cause, s.closed = some cause) ∧
    (s.wire.map WireRequest.id).Nodup ∧
    (∀ i c, s.callers i = some c → c.observed.length ≤ 1) ∧
    ∀ a s', SessionStep (max maxInFlight 1) requestTimeout s a s' →
      ∀ i c, s.callers i = some c → ∃ c', s'.callers i = some c' ∧
        (∀ reply, c.reply = .value reply → c'.reply = .value reply) ∧
        (c'.observed = c.observed ∨
          ∃ result, c'.observed = c.observed ++ [result] ∧ c.Returns s result) := by
  have h := sound_reachable hs hfew
  refine ⟨h.permitted.permits, h.permitted.holders, fun i c deadline hc hp =>
    ⟨h.owes.waiting i c deadline hc hp, h.owes.shut i c deadline hc hp⟩, h.owes.owner,
    h.owes.single, h.owes.ended, (Multiset.nodup_add.mp h.named.spoken).1,
    fun i c hc => (h.named.callers i c hc).single, fun a s' hstep i c hc => ?_⟩
  obtain ⟨c', hc', hsteps⟩ := steps_step h hstep hc
  exact ⟨c', hc', hsteps.reply, hsteps.observed⟩

/-- A cancellation that overtakes its request leaves it pending, with its permit given back. -/
theorem overtaken_request : ∃ s r c, (sessionSystem 1 5).Reachable s ∧ s.pending = [r] ∧
    r.id = "rust-node-1" ∧ s.cancellations = [] ∧ s.overtaken = [r.id] ∧
    s.callers 0 = some c ∧ c.observed = [.error (.requestTimeout "node.list")] ∧
    s.inFlight + s.holders.card = 1 ∧ s.Accounted c r.id := by
  have h₀ : (sessionSystem 1 5).Reachable _ := .initial ⟨0, .null, rfl⟩
  have h₁ := h₀.step (.call (i := 0) "node.list" .null rfl (by decide))
  have h₂ := h₁.step (.acquire (i := 0) rfl rfl (by decide))
  have h₃ := h₂.step (.enqueue (i := 0) rfl rfl rfl (by decide) nofun)
  have h₄ := h₃.step (.tick 5 (by decide))
  have h₅ := h₄.step (.elapse (i := 0) rfl rfl rfl (by decide))
  have h₆ := h₅.step (.cancel (i := 0) rfl rfl rfl)
  have h₇ := h₆.step (.takeCancellation rfl rfl)
  have h₈ := h₇.step (.takeRequest rfl rfl)
  have h₉ := h₈.step (.written rfl)
  obtain ⟨hpermits, -, -, howner, -⟩ := session_accounts 1 5 _ h₉ (by decide)
  obtain ⟨c, hc, -, -, -, hacc⟩ :=
    howner _ (Multiset.mem_add.mpr (Or.inr (List.mem_singleton.mpr rfl)))
  cases hc
  exact ⟨_, _, _, h₉, rfl, rfl, rfl, rfl, rfl, rfl, hpermits, hacc⟩

end OpenclawNode.Legacy
