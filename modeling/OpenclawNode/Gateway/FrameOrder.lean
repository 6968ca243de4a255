import OpenclawNode.Gateway.RequestCorrelation

/-! Which callers may still put a frame on the wire. -/
namespace OpenclawNode.Gateway

open Node (Nanos)
open SessionRun

variable {n : Nat} {writeTimeout : Nanos} {s s' : SessionRun} {i : Nat} {c c' : Caller}

/-- The request that has been handed to the socket. -/
def SessionPhase.flushed : SessionPhase → List Request
  | .flushing r _ _ => [r]
  | _ => []

namespace SessionRun

/-- The requests that are on the wire and have no answer yet. -/
def sent (s : SessionRun) : List Request := s.phase.flushed ++ s.pending

/-- The requests that have entered the queue. -/
def entered (s : SessionRun) : List Request :=
  queuedRequests s.queue ++ s.phase.unsent ++ s.sent

/-- The requests that come to the wire next, in order. -/
def line (s : SessionRun) : List Request := s.phase.unsent ++ queuedRequests s.queue

def OnWire (s : SessionRun) (method : String) (params : Json.Value) : Prop :=
  ∃ frame ∈ s.wire, frame.method = method ∧ frame.params = params

/-- The caller's request has not entered the queue. -/
def Waits (s : SessionRun) (i : Nat) : Prop :=
  ∃ c, s.callers i = some c ∧ (c.phase = .waitingPermit ∨ c.phase = .sending)

/-- A frame of this caller may still come to the wire. -/
def Live (s : SessionRun) (i : Nat) : Prop :=
  ∃ c, s.callers i = some c ∧ (c.phase = .waitingPermit ∨ c.phase = .sending ∨
    (c.cancelled = false ∧ ∃ r ∈ queuedRequests s.queue, r.caller = i) ∨
    ∃ r ∈ s.phase.unsent, r.caller = i)

end SessionRun

/-- Where a caller stands whose request has entered the queue and is not answered. -/
def Caller.Awaits (c : Caller) : Prop :=
  c.phase = .waitingReply ∨ c.phase = .cancelling ∨
    c.cancelled = true ∧ (c.phase = .cancelled ∨ c.phase = .done)

theorem mem_held {r : Request} : r ∈ s.held ↔ r ∈ s.sending ∨ r ∈ s.entered := by
  have hw : r ∈ s.phase.writing ↔ r ∈ s.phase.unsent ∨ r ∈ s.phase.flushed := by
    cases s.phase <;> simp [SessionPhase.writing, SessionPhase.unsent, SessionPhase.flushed]
  simp only [held, entered, sent, Multiset.mem_add, Multiset.mem_coe, List.mem_append, hw]
  tauto

/-- What holds of the callers and their requests in every reachable state. -/
structure SessionRun.Tidy (s : SessionRun) : Prop where
  single : (s.held.map Request.caller).Nodup
  owner : ∀ r ∈ s.held, ∃ c, s.callers r.caller = some c ∧ c.method = r.method ∧
    c.params = r.params ∧ c.reply = .waiting
  sending : ∀ r ∈ s.sending, ∀ c, s.callers r.caller = some c → c.phase = .sending
  entered : ∀ r ∈ s.entered, ∀ c, s.callers r.caller = some c → c.Awaits
  waiting : ∀ i c, s.callers i = some c → c.phase = .waitingPermit → c.reply = .waiting
  sent : ∀ r ∈ s.sent, s.OnWire r.method r.params
  answered : ∀ i c payload, s.callers i = some c →
    c.reply = .value (.ok payload) ∨ .ok payload ∈ c.observed → s.OnWire c.method c.params

/-- What the session task and the clock do: requests are dropped with an answer, taken from the
queue unless cancelled, written and answered once they are on the wire. -/
structure SessionRun.Sheds (s s' : SessionRun) (rs : List Request)
    (answer : Request → Option Reply) : Prop where
  held : s.held = ↑rs + s'.held
  callers : s'.callers = (s.settle rs answer).callers
  sending : ∀ r ∈ s'.sending, r ∈ s.sending
  entered : ∀ r ∈ s'.entered, r ∈ s.entered
  queued : ∀ r ∈ queuedRequests s'.queue, r ∈ queuedRequests s.queue
  unsent : ∀ r ∈ s'.phase.unsent, r ∈ s.phase.unsent ∨
    r ∈ queuedRequests s.queue ∧ s.isCancelled r = false
  sent : ∀ r ∈ s'.sent, r ∈ s.sent ∨ s'.OnWire r.method r.params
  wire : s'.wire = s.wire ∨ ∃ r ∈ s.phase.unsent,
    s'.wire = s.wire ++ [⟨r.id, r.method, r.params⟩] ∧ r ∈ s'.sent
  ok : ∀ r ∈ rs, ∀ payload, answer r = some (.ok payload) → r ∈ s.sent

theorem SessionRun.Sheds.mem_wire {rs : List Request} {answer : Request → Option Reply}
    (h : s.Sheds s' rs answer) : ∀ frame ∈ s.wire, frame ∈ s'.wire := by
  intro frame hf
  rcases h.wire with he | ⟨r, -, he, -⟩
  · rw [he]
    exact hf
  · rw [he]
    exact List.mem_append_left _ hf

theorem SessionRun.OnWire.mono {method : String} {params : Json.Value}
    (h : ∀ frame ∈ s.wire, frame ∈ s'.wire) (hw : s.OnWire method params) :
    s'.OnWire method params := by
  obtain ⟨frame, hf, he⟩ := hw
  exact ⟨frame, h frame hf, he⟩

theorem settle_callers {rs : List Request} {answer : Request → Option Reply}
    (h : (s.settle rs answer).callers i = some c') : ∃ c, s.callers i = some c ∧
      (c' = c ∨ ∃ r ∈ rs, r.caller = i ∧ c' = c.answered (answer r)) := by
  simp only [settle] at h
  cases hf : rs.find? (·.caller = i) with
  | none =>
    rw [hf] at h
    exact ⟨c', h, Or.inl rfl⟩
  | some r =>
    rw [hf] at h
    obtain ⟨c, hc, rfl⟩ := Option.map_eq_some_iff.mp h
    exact ⟨c, hc, Or.inr ⟨r, List.mem_of_find?_eq_some hf, by simpa using List.find?_some hf, rfl⟩⟩

theorem settle_callers_of_ne {rs : List Request} {answer : Request → Option Reply}
    (h : ∀ r ∈ rs, r.caller ≠ i) : (s.settle rs answer).callers i = s.callers i := by
  have hf : rs.find? (·.caller = i) = none := by
    rw [List.find?_eq_none]
    intro r hr he
    exact h r hr (of_decide_eq_true he)
  simp only [settle, hf]

theorem answered_phase (c : Caller) (reply : Option Reply) :
    (c.answered reply).phase = c.phase ∧ (c.answered reply).method = c.method ∧
      (c.answered reply).params = c.params ∧ (c.answered reply).cancelled = c.cancelled ∧
      (c.answered reply).observed = c.observed := by
  cases reply <;> exact ⟨rfl, rfl, rfl, rfl, rfl⟩

/-- Requests that stay have other callers than the dropped ones. -/
theorem SessionRun.Sheds.ne {rs : List Request} {answer : Request → Option Reply}
    (h : s.Sheds s' rs answer) (ht : s.Tidy) {r : Request} (hr : r ∈ s'.held) :
    ∀ r' ∈ rs, r'.caller ≠ r.caller := by
  intro r' hr' he
  have hn := ht.single
  rw [h.held, Multiset.map_add] at hn
  exact (Multiset.disjoint_left.mp (Multiset.nodup_add.mp hn).2.2)
    (Multiset.mem_map_of_mem _ (Multiset.mem_coe.mpr hr')) (he ▸ Multiset.mem_map_of_mem _ hr)

theorem SessionRun.Tidy.sheds {rs : List Request} {answer : Request → Option Reply} (ht : s.Tidy)
    (h : s.Sheds s' rs answer) : s'.Tidy := by
  have hkept : ∀ r ∈ s'.held, s'.callers r.caller = s.callers r.caller := fun r hr => by
    rw [h.callers]
    exact settle_callers_of_ne (h.ne ht hr)
  have hheld : ∀ r ∈ s'.held, r ∈ s.held := fun r hr => by
    rw [h.held]
    exact Multiset.mem_add.mpr (Or.inr hr)
  constructor
  case single =>
    have hn := ht.single
    rw [h.held, Multiset.map_add] at hn
    exact (Multiset.nodup_add.mp hn).2.1
  case owner =>
    intro r hr
    rw [hkept r hr]
    exact ht.owner r (hheld r hr)
  case sending =>
    intro r hr c hc
    rw [hkept r (mem_held.mpr (Or.inl hr))] at hc
    exact ht.sending r (h.sending r hr) c hc
  case entered =>
    intro r hr c hc
    rw [hkept r (mem_held.mpr (Or.inr hr))] at hc
    exact ht.entered r (h.entered r hr) c hc
  case waiting =>
    intro i c' hc' hp
    rw [h.callers] at hc'
    obtain ⟨c, hc, rfl | ⟨r, hr, rfl, rfl⟩⟩ := settle_callers hc'
    · exact ht.waiting i c' hc hp
    · -- a caller without a permit has no request that could be answered
      rw [(answered_phase c _).1] at hp
      have hr : r ∈ s.held := by
        rw [h.held]
        exact Multiset.mem_add.mpr (Or.inl (Multiset.mem_coe.mpr hr))
      rcases mem_held.mp hr with hr | hr
      · rw [ht.sending r hr c hc] at hp
        cases hp
      · have ha := ht.entered r hr c hc
        rw [Caller.Awaits, hp] at ha
        simp at ha
  case sent =>
    intro r hr
    rcases h.sent r hr with hr | hr
    · exact OnWire.mono h.mem_wire (ht.sent r hr)
    · exact hr
  case answered =>
    intro i c' payload hc' ha
    rw [h.callers] at hc'
    obtain ⟨c, hc, rfl | ⟨r, hr, rfl, rfl⟩⟩ := settle_callers hc'
    · exact OnWire.mono h.mem_wire (ht.answered i c' payload hc ha)
    · obtain ⟨-, hm, hp, -, ho⟩ := answered_phase c (answer r)
      rw [hm, hp]
      rw [ho] at ha
      rcases ha with ha | ha
      · have hr' : r ∈ s.held := by
          rw [h.held]
          exact Multiset.mem_add.mpr (Or.inl (Multiset.mem_coe.mpr hr))
        obtain ⟨c₀, hc₀, hm₀, hp₀, -⟩ := ht.owner r hr'
        rw [hc] at hc₀
        cases hc₀
        cases hans : answer r with
        | none =>
          rw [hans] at ha
          cases ha
        | some reply =>
          rw [hans] at ha
          cases ha
          rw [hm₀, hp₀]
          exact OnWire.mono h.mem_wire (ht.sent r (h.ok r hr payload hans))
      · exact OnWire.mono h.mem_wire (ht.answered _ c payload hc (Or.inr ha))

/-- A step between requests that leaves the queue, the pending requests and the wire. -/
theorem sheds_phase {phase : SessionPhase} {now : Nanos} {closed : Option SessionCloseCause}
    (hw : s.phase.writing = []) (hu' : phase.unsent = []) (hf' : phase.flushed = [])
    (hw' : phase.writing = []) :
    s.Sheds { s with phase := phase, now := now, closed := closed } [] fun _ => none where
  held := by simp [held, hw, hw']
  callers := rfl
  sending _ hr := hr
  entered r hr := by
    simp only [SessionRun.entered, SessionRun.sent, hu', hf', List.append_nil,
      List.nil_append] at hr
    simp only [SessionRun.entered, SessionRun.sent, List.mem_append] at hr ⊢
    tauto
  queued _ hr := hr
  unsent r hr := by
    rw [show ({ s with phase := phase, now := now, closed := closed } : SessionRun).phase.unsent =
      [] from hu'] at hr
    cases hr
  sent r hr := by
    simp only [SessionRun.sent, hf', List.nil_append] at hr
    exact Or.inl (List.mem_append_right _ hr)
  wire := Or.inl rfl
  ok _ hr := by cases hr

/-- Pending requests are dropped with an answer. -/
theorem sheds_pending {p q : Request → Bool} {answer : Request → Option Reply}
    {phase : SessionPhase} {arrivals : List Arrival} (h : ∀ r, q r = !p r)
    (hw : s.phase.writing = []) (hw' : phase.writing = []) (hu' : phase.unsent = [])
    (hf' : phase.flushed = []) :
    s.Sheds { s.settle (s.pending.filter p) answer with
      pending := s.pending.filter q, phase := phase, arrivals := arrivals }
      (s.pending.filter p) answer where
  held := (drops_pending h hw hw' hu').held
  callers := rfl
  sending _ hr := hr
  entered r hr := by
    simp only [SessionRun.entered, SessionRun.sent, settle, hu', hf', List.append_nil,
      List.nil_append, List.mem_append, List.mem_filter] at hr ⊢
    tauto
  queued _ hr := hr
  unsent r hr := by
    rw [show ({ s.settle (s.pending.filter p) answer with
      pending := s.pending.filter q, phase := phase, arrivals := arrivals } :
        SessionRun).phase.unsent = [] from hu'] at hr
    cases hr
  sent r hr := by
    simp only [SessionRun.sent, hf', List.nil_append, List.mem_filter] at hr
    exact Or.inl (List.mem_append_right _ hr.1)
  wire := Or.inl rfl
  ok r hr _ _ := List.mem_append_right _ (List.mem_filter.mp hr).1

/-- The request taken from the queue, or the one that waits for the socket, is dropped. -/
theorem sheds_unsent {queue : List SessionCommand} {r : Request} {phase : SessionPhase}
    {answer : Request → Option Reply} {refused : List (String × Refusal)}
    (h : (queuedRequests s.queue : Multiset Request) + ↑s.phase.unsent =
      {r} + ↑(queuedRequests queue))
    (hq : ∀ r ∈ queuedRequests queue, r ∈ queuedRequests s.queue)
    (hw : s.phase.writing = s.phase.unsent) (hw' : phase.writing = []) (hu' : phase.unsent = [])
    (hf' : phase.flushed = [])
    (hr : refused = s.refused ∨ ∃ why, refused = s.refused ++ [(r.id, why)])
    (hok : ∀ payload, answer r ≠ some (.ok payload)) :
    s.Sheds { s.settle [r] answer with queue := queue, phase := phase, refused := refused }
      [r] answer where
  held := (drops_unsent h hw hw' hu' hr).held
  callers := rfl
  sending _ hr := hr
  entered r hr := by
    simp only [SessionRun.entered, SessionRun.sent, settle, hu', hf', List.append_nil,
      List.nil_append, List.mem_append] at hr ⊢
    rcases hr with hr | hr
    · exact Or.inl (Or.inl (hq r hr))
    · exact Or.inr (Or.inr hr)
  queued := hq
  unsent r' hr' := by
    rw [show ({ s.settle [r] answer with queue := queue, phase := phase, refused := refused } :
        SessionRun).phase.unsent = [] from hu'] at hr'
    cases hr'
  sent r hr := by
    simp only [SessionRun.sent, settle, hf', List.nil_append] at hr
    exact Or.inl (List.mem_append_right _ hr)
  wire := Or.inl rfl
  ok r' hr' payload ha := by
    rw [List.mem_singleton.mp hr'] at ha
    exact absurd ha (hok payload)

theorem sheds_cancelRequest {id : String} {rest : List SessionCommand} {rs : List Request}
    {answer : Request → Option Reply} (hq : s.queue = .cancelRequest id :: rest)
    (h : SessionRun.Sheds { s with queue := rest } s' rs answer) : s.Sheds s' rs answer where
  held := by
    have hs : s.held = SessionRun.held { s with queue := rest } := by simp [held, hq]
    rw [hs]
    exact h.held
  callers := h.callers
  sending := h.sending
  entered r hr := by
    have hr := h.entered r hr
    simpa [SessionRun.entered, SessionRun.sent, hq] using hr
  queued r hr := by simpa [hq] using h.queued r hr
  unsent r hr := by
    rcases h.unsent r hr with hr | ⟨hr, hc⟩
    · exact Or.inl hr
    · exact Or.inr ⟨by simpa [hq] using hr, hc⟩
  sent := h.sent
  wire := h.wire
  ok := h.ok

/-- A response or the end of the session comes to what is pending; a write takes its request with
it. -/
theorem sheds_written {r : Request} (hw : s.phase.flushed = [r]) (hu : s.phase.unsent = [])
    (hwriting : s.phase.writing = [r]) :
    s.Sheds (s.insertPending r) (s.pending.filter (·.id = r.id)) fun _ => none where
  held := (drops_insertPending hwriting hu).held
  callers := rfl
  sending _ hr := hr
  entered q hq := by
    have hq : q ∈ queuedRequests s.queue ∨ (q ∈ s.pending ∧ ¬ q.id = r.id) ∨ q = r := by
      simpa [SessionRun.entered, SessionRun.sent, insertPending, settle, SessionPhase.unsent,
        SessionPhase.flushed] using hq
    simp only [SessionRun.entered, SessionRun.sent, hw, hu, List.append_nil, List.mem_append,
      List.mem_singleton]
    tauto
  queued _ hr := hr
  unsent q hq := by cases hq
  sent q hq := by
    have hq : (q ∈ s.pending ∧ ¬ q.id = r.id) ∨ q = r := by
      simpa [SessionRun.sent, insertPending, settle, SessionPhase.flushed] using hq
    simp only [SessionRun.sent, hw, List.mem_append, List.mem_singleton]
    tauto
  wire := Or.inl rfl
  ok _ _ _ ha := by cases ha

theorem sheds_failWrite {r : Request} {phase : SessionPhase} {answer : Request → Option Reply}
    (hw : s.phase.writing = [r]) (hw' : phase.writing = []) (hu' : phase.unsent = [])
    (hf' : phase.flushed = []) (hok : ∀ payload, answer r ≠ some (.ok payload)) :
    s.Sheds { s.settle [r] answer with phase := phase } [r] answer where
  held := (drops_write hw hw' hu').held
  callers := rfl
  sending _ hr := hr
  entered q hq := by
    simp only [SessionRun.entered, SessionRun.sent, settle, hu', hf', List.append_nil,
      List.nil_append, List.mem_append] at hq ⊢
    tauto
  queued _ hr := hr
  unsent q hq := by
    rw [show ({ s.settle [r] answer with phase := phase } : SessionRun).phase.unsent = [] from hu']
      at hq
    cases hq
  sent q hq := by
    simp only [SessionRun.sent, settle, hf', List.nil_append] at hq
    exact Or.inl (List.mem_append_right _ hq)
  wire := Or.inl rfl
  ok q hq payload ha := by
    rw [List.mem_singleton.mp hq] at ha
    exact absurd ha (hok payload)

/-- Everything the session task and the clock do. -/
theorem sheds_step {a : SessionActor} (hs : SessionStep n writeTimeout s a s')
    (ha : ∀ i, a ≠ .caller i) : ∃ rs answer, s.Sheds s' rs answer := by
  cases hs with
  | call | callEmpty | acquire | permitTimeout | permitDropped | enqueue | sendTimeout | sendDropped
  | sendClosed | receive | receiveClosed | replyTimeout | replyDropped | setCancelled | offerCancel
  | loseCancel => exact absurd rfl (ha _)
  | purge seen hp _ =>
    exact ⟨_, _, sheds_pending (fun r => rfl) (by rw [hp]; rfl) rfl rfl rfl⟩
  | closeByClient hp => exact ⟨_, _, sheds_phase (by rw [hp]; rfl) rfl rfl rfl⟩
  | expire hp _ =>
    exact ⟨_, _, sheds_pending (fun r => decide_not) (by rw [hp]; rfl) rfl rfl rfl⟩
  | @request r rest later hp hq hl =>
    have hmove : (queuedRequests s.queue : Multiset Request) + ↑s.phase.unsent =
        {r} + ↑(queuedRequests rest) := by
      rw [hp, hq]
      simp [SessionPhase.unsent]
    have hsub : ∀ q ∈ queuedRequests rest, q ∈ queuedRequests s.queue := by
      intro q hq'
      rw [hq]
      exact List.mem_cons_of_mem _ hq'
    have hw : s.phase.writing = s.phase.unsent := by rw [hp]; rfl
    unfold onRequest
    split
    · exact ⟨_, _, sheds_unsent hmove hsub hw rfl rfl rfl (Or.inr ⟨_, rfl⟩) (by simp)⟩
    · next hcancel =>
      split
      · exact ⟨_, _, sheds_unsent hmove hsub hw rfl rfl rfl (Or.inr ⟨_, rfl⟩) (by simp)⟩
      · refine ⟨[], fun _ => none, ?_, rfl, fun _ hr => hr, ?_, hsub, ?_, ?_, Or.inl rfl, ?_⟩
        · simp only [held, hp, hq, SessionPhase.writing, queuedRequests_request]
          rw [← Multiset.cons_coe r, ← Multiset.singleton_add, Multiset.coe_singleton,
            Multiset.coe_nil]
          abel
        · intro q hq'
          have hq' : (q ∈ queuedRequests rest ∨ q = r) ∨ q ∈ s.pending := by
            simpa [SessionRun.entered, SessionRun.sent, SessionPhase.unsent,
              SessionPhase.flushed, or_assoc] using hq'
          simp only [SessionRun.entered, SessionRun.sent, hp, hq, queuedRequests_request,
            SessionPhase.unsent, SessionPhase.flushed, List.append_nil, List.nil_append,
            List.mem_append, List.mem_cons]
          tauto
        · intro q hq'
          rw [List.mem_singleton.mp hq']
          refine Or.inr ⟨by rw [hq]; exact List.mem_cons_self, ?_⟩
          simpa [isCancelled] using hcancel
        · intro q hq'
          exact Or.inl (List.mem_append_right _ hq')
        · intro q hq'
          cases hq'
  | @cancelRequest id rest hp hq =>
    exact ⟨_, _, sheds_cancelRequest hq (sheds_pending (fun r => by simp) (by rw [hp]; rfl)
      rfl rfl rfl)⟩
  | message message hp =>
    have hw : s.phase.writing = [] := by rw [hp]; rfl
    rcases message with _ | ⟨id, ok, payload, error⟩ | _ | (_ | _ | _) | _ | _ | _ | _
    case response => exact ⟨_, _, sheds_pending (fun r => by simp) hw rfl rfl rfl⟩
    all_goals exact ⟨_, _, sheds_phase hw rfl rfl rfl⟩
  | @start r expires wins hp =>
    refine ⟨[], fun _ => none, ?_, rfl, fun _ hr => hr, ?_, fun _ hr => hr, ?_, ?_, ?_, ?_⟩
    · simp [held, SessionRun.start, hp, SessionPhase.writing]
    · intro q hq
      have hq : q ∈ queuedRequests s.queue ∨ q = r ∨ q ∈ s.pending := by
        simpa [SessionRun.entered, SessionRun.sent, SessionRun.start, SessionPhase.unsent,
          SessionPhase.flushed] using hq
      simp only [SessionRun.entered, SessionRun.sent, hp, SessionPhase.unsent,
        SessionPhase.flushed, List.nil_append, List.mem_append, List.mem_singleton]
      tauto
    · intro q hq
      cases hq
    · intro q hq
      rcases List.mem_append.mp hq with hq | hq
      · rw [List.mem_singleton.mp hq]
        exact Or.inr ⟨⟨r.id, r.method, r.params⟩, List.mem_append_right _ List.mem_cons_self, rfl,
          rfl⟩
      · exact Or.inl (List.mem_append_right _ hq)
    · exact Or.inr ⟨r, by rw [hp]; exact List.mem_cons_self, rfl,
        List.mem_append_left _ List.mem_cons_self⟩
    · intro q hq
      cases hq
  | @rejectByGuard r expires wins reason hp _ =>
    have hmove : (queuedRequests s.queue : Multiset Request) + ↑s.phase.unsent =
        {r} + ↑(queuedRequests s.queue) := by
      rw [hp, add_comm]
      rfl
    exact ⟨_, _, sheds_unsent hmove (fun _ hq => hq) (by rw [hp]; rfl) rfl rfl rfl
      (Or.inr ⟨_, rfl⟩) (by simp)⟩
  | written hp =>
    exact ⟨_, _, sheds_written (by rw [hp]; rfl) (by rw [hp]; rfl) (by rw [hp]; rfl)⟩
  | @failWrite r expires wins failure hp _ =>
    have hw : s.phase.writing = [r] := by rcases hp with hp | hp <;> rw [hp] <;> rfl
    cases failure with
    | timedOut => exact ⟨_, _, sheds_failWrite hw rfl rfl rfl (by simp)⟩
    | transport error => exact ⟨_, _, sheds_failWrite hw rfl rfl rfl (by simp)⟩
  | @failPending cause r rest hp hpending =>
    refine ⟨[r], _, (drops_failPending hpending).held, rfl, fun _ hr => hr, ?_, fun _ hr => hr, ?_,
      ?_, Or.inl rfl, ?_⟩
    · intro q hq
      simp only [SessionRun.entered, SessionRun.sent, settle, hpending, List.mem_append,
        List.mem_cons] at hq ⊢
      tauto
    · intro q hq
      exact Or.inl hq
    · intro q hq
      simp only [SessionRun.sent, settle, hpending, List.mem_append, List.mem_cons] at hq ⊢
      tauto
    · intro q _ payload ha
      cases ha
  | announce hp _ => exact ⟨_, _, sheds_phase (by rw [hp]; rfl) rfl rfl rfl⟩
  | dropQueue hp =>
    refine ⟨_, _, (drops_dropQueue (by rw [hp]; rfl)).held, rfl, fun _ hr => hr, ?_, ?_, ?_, ?_,
      Or.inl rfl, ?_⟩
    · intro q hq
      exact List.mem_append_right _ (List.mem_append_right _ hq)
    · intro q hq
      cases hq
    · intro q hq
      cases hq
    · intro q hq
      exact Or.inl (List.mem_append_right _ hq)
    · intro q _ payload ha
      cases ha
  | tick later _ =>
    exact ⟨[], fun _ => none, (zero_add _).symm, rfl, fun _ hr => hr, fun _ hr => hr,
      fun _ hr => hr, fun _ hr => Or.inl hr, fun _ hr => Or.inl hr, Or.inl rfl,
      fun _ hr => by cases hr⟩

/-- A caller goes on without its request being touched. -/
structure Caller.Moves (c c' : Caller) : Prop where
  method : c'.method = c.method
  params : c'.params = c.params
  reply : c'.reply = c.reply
  left : c.phase ≠ .sending ∧ c.phase ≠ .done
  came : c'.phase ≠ .waitingPermit ∧ c'.phase ≠ .sending
  awaits : c.Awaits → c.reply = .waiting → c'.Awaits
  cancelled : c.cancelled = true → c'.cancelled = true
  ok : ∀ payload, .ok payload ∈ c'.observed →
    .ok payload ∈ c.observed ∨ c.reply = .value (.ok payload)

/-- A caller's request is given up before it enters the queue. -/
structure Caller.GivesUp (c c' : Caller) : Prop where
  method : c'.method = c.method
  params : c'.params = c.params
  phase : c'.phase = .done
  reply : c'.reply = c.reply
  ok : ∀ payload, .ok payload ∈ c'.observed → .ok payload ∈ c.observed

/-- Everything a caller does. -/
inductive CallerStep (s : SessionRun) (i : Nat) : SessionRun → Prop
  | new (c : Caller) : s.callers i = none → c.reply = .waiting →
      (∀ payload, .ok payload ∉ c.observed) → CallerStep s i (s.setCaller i c)
  | moves {c c' : Caller} (queue : List SessionCommand) : s.callers i = some c → c.Moves c' →
      queuedRequests queue = queuedRequests s.queue →
      CallerStep s i { s.setCaller i c' with queue := queue }
  | acquire {c permit rest} : s.callers i = some c → c.phase = .waitingPermit →
      CallerStep s i (s.acquire i c permit rest)
  | enqueue {c r before after} : s.callers i = some c → c.phase = .sending →
      s.sending = before ++ r :: after → r.caller = i →
      CallerStep s i { s.setCaller i { c with phase := .waitingReply } with
        sending := before ++ after, queue := s.queue ++ [.request r] }
  | givesUp {c c' r before after} : s.callers i = some c → c.phase = .sending → c.GivesUp c' →
      s.sending = before ++ r :: after → r.caller = i →
      CallerStep s i (({ s with sending := before ++ after }.settle [r] fun _ => none).setCaller i
        c')

theorem ok_mem_append_error {observed : List Reply} {error : ClientError} {payload : Json.Value}
    (h : .ok payload ∈ observed ++ [.error error]) : .ok payload ∈ observed := by
  rcases List.mem_append.mp h with h | h
  · exact h
  · cases List.mem_singleton.mp h

theorem caller_step (hs : SessionStep n writeTimeout s (.caller i) s') : CallerStep s i s' := by
  cases hs with
  | call method params deadline guarded hc _ =>
    exact .new _ hc rfl fun _ h => by cases h
  | callEmpty params deadline guarded hc =>
    exact .new _ hc rfl fun _ h => by cases List.mem_singleton.mp h
  | acquire hc hp _ => exact .acquire hc hp
  | enqueue hc hp hsend hi _ _ => exact .enqueue hc hp hsend hi
  | sendTimeout hc hp hsend hi _ =>
    exact .givesUp hc hp ⟨rfl, rfl, rfl, rfl, fun _ h => ok_mem_append_error h⟩ hsend hi
  | sendDropped hc hp hsend hi =>
    exact .givesUp hc hp ⟨rfl, rfl, rfl, rfl, fun _ h => h⟩ hsend hi
  | sendClosed hc hp hsend hi _ =>
    exact .givesUp hc hp ⟨rfl, rfl, rfl, rfl, fun _ h => ok_mem_append_error h⟩ hsend hi
  | @permitTimeout _ c hc hp _ =>
    have hmoves : c.Moves (c.finish (.error (.requestTimeout c.method))) := by
      exact ⟨rfl, rfl, rfl, by simp [hp], by simp [Caller.finish], fun ha _ => by
        simp [Caller.Awaits, hp] at ha, fun h => h, fun _ h => Or.inl (ok_mem_append_error h)⟩
    exact .moves s.queue hc hmoves rfl
  | @permitDropped _ c hc hp =>
    have hmoves : c.Moves ({ c with phase := .done }) := by
      exact ⟨rfl, rfl, rfl, by simp [hp], by simp, fun ha _ => by simp [Caller.Awaits, hp] at ha,
        fun h => h, fun _ h => Or.inl h⟩
    exact .moves s.queue hc hmoves rfl
  | @receive _ c reply hc hp hr =>
    have hmoves : c.Moves (c.finish reply) := by
      refine ⟨rfl, rfl, rfl, by simp [hp], by simp [Caller.finish], fun _ hw => ?_, fun h => h, ?_⟩
      · rw [hr] at hw
        cases hw
      · intro payload h
        rcases List.mem_append.mp h with h | h
        · exact Or.inl h
        · rw [List.mem_singleton.mp h]
          exact Or.inr hr
    exact .moves s.queue hc hmoves rfl
  | @receiveClosed _ c hc hp hr =>
    have hmoves : c.Moves (c.finish (.error s.closedError)) := by
      refine ⟨rfl, rfl, rfl, by simp [hp], by simp [Caller.finish], fun _ hw => ?_, fun h => h,
        fun _ h => Or.inl (ok_mem_append_error h)⟩
      rw [hr] at hw
      cases hw
    exact .moves s.queue hc hmoves rfl
  | @replyTimeout _ c hc hp hr _ =>
    have hmoves : c.Moves ({ c.finish (.error (.requestTimeout c.method)) with
        phase := .cancelling }) := by
      exact ⟨rfl, rfl, rfl, by simp [hp], by simp, fun _ _ => Or.inr (Or.inl rfl), fun h => h,
        fun _ h => Or.inl (ok_mem_append_error h)⟩
    exact .moves s.queue hc hmoves rfl
  | @replyDropped _ c hc hp =>
    have hmoves : c.Moves ({ c with phase := .cancelling }) := by
      exact ⟨rfl, rfl, rfl, by simp [hp], by simp, fun _ _ => Or.inr (Or.inl rfl), fun h => h,
        fun _ h => Or.inl h⟩
    exact .moves s.queue hc hmoves rfl
  | @setCancelled _ c hc hp =>
    have hmoves : c.Moves ({ c with phase := .cancelled, cancelled := true }) := by
      exact ⟨rfl, rfl, rfl, by simp [hp], by simp,
        fun _ _ => Or.inr (Or.inr ⟨rfl, Or.inl rfl⟩), fun _ => rfl, fun _ h => Or.inl h⟩
    exact .moves s.queue hc hmoves rfl
  | @offerCancel _ c id hc hp hid _ _ =>
    have hmoves : c.Moves ({ c with phase := .done }) := by
      refine ⟨rfl, rfl, rfl, by simp [hp], by simp, fun ha _ => ?_, fun h => h, fun _ h => Or.inl h⟩
      simp only [Caller.Awaits, hp] at ha
      simpa [Caller.Awaits] using ha
    exact .moves (s.queue ++ [.cancelRequest id]) hc hmoves (by simp)
  | @loseCancel _ c hc hp _ =>
    have hmoves : c.Moves ({ c with phase := .done }) := by
      refine ⟨rfl, rfl, rfl, by simp [hp], by simp, fun ha _ => ?_, fun h => h, fun _ h => Or.inl h⟩
      simp only [Caller.Awaits, hp] at ha
      simpa [Caller.Awaits] using ha
    exact .moves s.queue hc hmoves rfl

theorem setCaller_ne {j : Nat} (hj : j ≠ i) : (s.setCaller i c).callers j = s.callers j :=
  Function.update_of_ne hj _ _

theorem setCaller_self : (s.setCaller i c).callers i = some c := Function.update_self _ _ _

/-- A caller changes as its requests allow. -/
theorem SessionRun.Tidy.setCaller (ht : s.Tidy)
    (hheld : ∀ r ∈ s.held, r.caller = i → c.method = r.method ∧ c.params = r.params ∧
      c.reply = .waiting)
    (hsending : ∀ r ∈ s.sending, r.caller = i → c.phase = .sending)
    (hentered : ∀ r ∈ s.entered, r.caller = i → c.Awaits)
    (hwaiting : c.phase = .waitingPermit → c.reply = .waiting)
    (hok : ∀ payload, c.reply = .value (.ok payload) ∨ .ok payload ∈ c.observed →
      s.OnWire c.method c.params) : (s.setCaller i c).Tidy := by
  have hcallers : ∀ j d, (s.setCaller i c).callers j = some d →
      j = i ∧ d = c ∨ j ≠ i ∧ s.callers j = some d := by
    intro j d hd
    by_cases hj : j = i
    · subst hj
      rw [setCaller_self] at hd
      exact Or.inl ⟨rfl, (Option.some.inj hd).symm⟩
    · rw [setCaller_ne hj] at hd
      exact Or.inr ⟨hj, hd⟩
  constructor
  case single => exact ht.single
  case owner =>
    intro r hr
    by_cases hi : r.caller = i
    · exact ⟨c, by rw [hi, setCaller_self], hheld r hr hi⟩
    · rw [setCaller_ne hi]
      exact ht.owner r hr
  case sending =>
    intro r hr d hd
    rcases hcallers _ d hd with ⟨hi, rfl⟩ | ⟨-, hd⟩
    · exact hsending r hr hi
    · exact ht.sending r hr d hd
  case entered =>
    intro r hr d hd
    rcases hcallers _ d hd with ⟨hi, rfl⟩ | ⟨-, hd⟩
    · exact hentered r hr hi
    · exact ht.entered r hr d hd
  case waiting =>
    intro j d hd hp
    rcases hcallers _ d hd with ⟨-, rfl⟩ | ⟨-, hd⟩
    · exact hwaiting hp
    · exact ht.waiting j d hd hp
  case sent => exact ht.sent
  case answered =>
    intro j d payload hd ha
    rcases hcallers _ d hd with ⟨-, rfl⟩ | ⟨-, hd⟩
    · exact hok payload ha
    · exact ht.answered j d payload hd ha

/-- The tidiness of a session depends on where its requests are. -/
theorem SessionRun.Tidy.relocate (ht : s.Tidy) {sending : List Request}
    {queue : List SessionCommand}
    (hheld : (sending : Multiset Request) + ↑(queuedRequests queue) =
      ↑s.sending + ↑(queuedRequests s.queue))
    (hsending : ∀ r ∈ sending, ∀ c, s.callers r.caller = some c → c.phase = .sending)
    (hqueued : ∀ r ∈ queuedRequests queue, r ∈ queuedRequests s.queue ∨
      ∀ c, s.callers r.caller = some c → c.Awaits) :
    SessionRun.Tidy { s with sending := sending, queue := queue } := by
  have hs : SessionRun.held { s with sending := sending, queue := queue } = s.held := by
    simp only [held, hheld]
  constructor
  case single => rw [hs]; exact ht.single
  case owner => rw [hs]; exact ht.owner
  case sending => exact hsending
  case entered =>
    intro r hr c hc
    simp only [SessionRun.entered, List.mem_append] at hr
    rcases hr with (hr | hr) | hr
    · rcases hqueued r hr with hr | ha
      · exact ht.entered r (List.mem_append_left _ (List.mem_append_left _ hr)) c hc
      · exact ha c hc
    · exact ht.entered r (List.mem_append_left _ (List.mem_append_right _ hr)) c hc
    · exact ht.entered r (List.mem_append_right _ hr) c hc
  case waiting => exact ht.waiting
  case sent => exact ht.sent
  case answered => exact ht.answered

/-- No request is held for a caller that waits for a permit, or that is unknown. -/
theorem SessionRun.Tidy.none_held (ht : s.Tidy)
    (h : ∀ c, s.callers i = some c → c.phase = .waitingPermit) : ∀ r ∈ s.held, r.caller ≠ i := by
  rintro r hr rfl
  obtain ⟨c, hc, -⟩ := ht.owner r hr
  have hp := h c hc
  rcases mem_held.mp hr with hr | hr
  · rw [ht.sending r hr c hc] at hp
    cases hp
  · have ha := ht.entered r hr c hc
    simp [Caller.Awaits, hp] at ha

theorem SessionRun.Tidy.acquire {permit : Nat} {rest : List Nat} (ht : s.Tidy)
    (hc : s.callers i = some c) (hp : c.phase = .waitingPermit) :
    (s.acquire i c permit rest).Tidy := by
  have hfree := ht.none_held (i := i) fun d hd => by
    rw [hc] at hd
    cases hd
    exact hp
  have hset := ht.setCaller (i := i)
    (c := { c with id := some (requestId s.nextRequestId), phase := .sending })
    (fun r hr hi => absurd hi (hfree r hr))
    (fun r hr hi => absurd hi (hfree r (mem_held.mpr (Or.inl hr))))
    (fun r hr hi => absurd hi (hfree r (mem_held.mpr (Or.inr hr))))
    (fun h => by cases h) (fun payload => ht.answered i c payload hc)
  constructor
  case single =>
    rw [held_acquire, Multiset.map_cons, Multiset.nodup_cons]
    refine ⟨?_, ht.single⟩
    intro hm
    obtain ⟨r, hr, he⟩ := Multiset.mem_map.mp hm
    exact hfree r hr he
  case owner =>
    intro r hr
    rw [held_acquire, Multiset.mem_cons] at hr
    rcases hr with rfl | hr
    · exact ⟨_, setCaller_self, rfl, rfl, ht.waiting i c hc hp⟩
    · exact hset.owner r hr
  case sending =>
    intro r hr d hd
    rcases List.mem_append.mp hr with hr | hr
    · exact hset.sending r hr d hd
    · rw [List.mem_singleton.mp hr] at hd
      have hd : (s.setCaller i { c with
        id := some (requestId s.nextRequestId), phase := .sending }).callers i = some d := hd
      rw [setCaller_self] at hd
      cases hd
      rfl
  case entered => exact hset.entered
  case waiting => exact hset.waiting
  case sent => exact hset.sent
  case answered => exact hset.answered

section Sending

variable {r : Request} {before after : List Request}

theorem coe_sending (hsend : s.sending = before ++ r :: after) :
    (s.sending : Multiset Request) = {r} + ↑(before ++ after) := by
  rw [hsend, Multiset.singleton_add, Multiset.cons_coe, Multiset.coe_eq_coe]
  exact List.perm_middle

/-- The one request of a caller that still sends is the one that leaves. -/
theorem SessionRun.Tidy.others (ht : s.Tidy) (hsend : s.sending = before ++ r :: after) :
    ∀ q ∈ before ++ after, q ∈ s.sending ∧ q.caller ≠ r.caller := by
  intro q hq
  refine ⟨?_, ?_⟩
  · rw [hsend]
    exact List.mem_append.mpr ((List.mem_append.mp hq).imp id (List.mem_cons_of_mem _))
  · intro he
    have hn := ht.single
    rw [held, coe_sending hsend, add_assoc, add_assoc, add_assoc, Multiset.singleton_add,
      Multiset.map_cons, Multiset.nodup_cons] at hn
    refine hn.1 (Multiset.mem_map.mpr ⟨q, ?_, he⟩)
    exact Multiset.mem_add.mpr (Or.inl (Multiset.mem_coe.mpr hq))

theorem SessionRun.Tidy.enqueue (ht : s.Tidy) (hc : s.callers i = some c)
    (hsend : s.sending = before ++ r :: after) (hi : r.caller = i) :
    SessionRun.Tidy { s.setCaller i { c with phase := .waitingReply } with
      sending := before ++ after, queue := s.queue ++ [.request r] } := by
  have hheld : SessionRun.held { s.setCaller i { c with phase := .waitingReply } with
      sending := before ++ after, queue := s.queue ++ [.request r] } = s.held := by
    have hq : (queuedRequests (s.queue ++ [.request r]) : Multiset Request) =
        ↑(queuedRequests s.queue) + {r} := by
      rw [queuedRequests_append, ← Multiset.coe_add]
      rfl
    simp only [held, SessionRun.setCaller, hq, coe_sending hsend]
    abel
  have hcallers : ∀ j d, (s.setCaller i { c with phase := .waitingReply }).callers j = some d →
      j = i ∧ d = { c with phase := .waitingReply } ∨ j ≠ i ∧ s.callers j = some d := by
    intro j d hd
    by_cases hj : j = i
    · subst hj
      rw [setCaller_self] at hd
      exact Or.inl ⟨rfl, (Option.some.inj hd).symm⟩
    · rw [setCaller_ne hj] at hd
      exact Or.inr ⟨hj, hd⟩
  constructor
  case single => rw [hheld]; exact ht.single
  case owner =>
    rw [hheld]
    intro q hq
    obtain ⟨d, hd, h⟩ := ht.owner q hq
    by_cases hqi : q.caller = i
    · rw [hqi, hc] at hd
      cases hd
      exact ⟨{ c with phase := .waitingReply }, by rw [hqi]; exact setCaller_self, h⟩
    · exact ⟨d, (setCaller_ne hqi).trans hd, h⟩
  case sending =>
    intro q hq d hd
    obtain ⟨hq, hne⟩ := ht.others hsend q hq
    rcases hcallers _ d hd with ⟨he, -⟩ | ⟨-, hd⟩
    · exact absurd (he.trans hi.symm) hne
    · exact ht.sending q hq d hd
  case entered =>
    intro q hq d hd
    rcases hcallers _ d hd with ⟨-, rfl⟩ | ⟨hne, hd⟩
    · exact Or.inl rfl
    · refine ht.entered q ?_ d hd
      have hq : ((q ∈ queuedRequests s.queue ∨ q = r) ∨ q ∈ s.phase.unsent) ∨ q ∈ s.sent := by
        simpa [SessionRun.entered, SessionRun.sent, SessionRun.setCaller, queuedRequests,
          or_assoc] using hq
      have hqr : q ≠ r := by
        rintro rfl
        exact hne hi
      simp only [SessionRun.entered, List.mem_append]
      tauto
  case waiting =>
    intro j d hd hp
    rcases hcallers _ d hd with ⟨-, rfl⟩ | ⟨-, hd⟩
    · cases hp
    · exact ht.waiting j d hd hp
  case sent => exact ht.sent
  case answered =>
    intro j d payload hd ha
    rcases hcallers _ d hd with ⟨-, rfl⟩ | ⟨-, hd⟩
    · exact ht.answered i c payload hc ha
    · exact ht.answered j d payload hd ha

theorem sheds_sending (hsend : s.sending = before ++ r :: after) :
    s.Sheds ({ s with sending := before ++ after }.settle [r] fun _ => none) [r]
      fun _ => none where
  held := by
    simp only [held, settle, coe_sending hsend, Multiset.coe_singleton]
    abel
  callers := rfl
  sending q hq := by
    rw [hsend]
    exact List.mem_append.mpr ((List.mem_append.mp hq).imp id (List.mem_cons_of_mem _))
  entered _ hq := hq
  queued _ hq := hq
  unsent _ hq := Or.inl hq
  sent _ hq := Or.inl hq
  wire := Or.inl rfl
  ok _ _ _ ha := by cases ha

theorem SessionRun.Tidy.givesUp (ht : s.Tidy) (hc : s.callers i = some c) (hg : c.GivesUp c')
    (hsend : s.sending = before ++ r :: after) (hi : r.caller = i) :
    (({ s with sending := before ++ after }.settle [r] fun _ => none).setCaller i c').Tidy := by
  have hsheds := sheds_sending hsend
  have hfree : ∀ q ∈ ({ s with sending := before ++ after }.settle [r] fun _ => none).held,
      q.caller ≠ i := by
    intro q hq he
    exact hsheds.ne ht hq r List.mem_cons_self (hi.trans he.symm)
  refine (ht.sheds hsheds).setCaller (fun q hq he => absurd he (hfree q hq))
    (fun q hq he => absurd he (hfree q (mem_held.mpr (Or.inl hq))))
    (fun q hq he => absurd he (hfree q (mem_held.mpr (Or.inr hq)))) ?_ ?_
  · rw [hg.phase]
    intro h
    cases h
  · intro payload h
    rw [hg.method, hg.params]
    rw [hg.reply] at h
    exact ht.answered i c payload hc (h.imp id (hg.ok payload))

end Sending

theorem tidy_caller (ht : s.Tidy) (hs : CallerStep s i s') : s'.Tidy := by
  cases hs with
  | new c hc hr ho =>
    have hfree := ht.none_held (i := i) fun d hd => by
      rw [hc] at hd
      cases hd
    refine ht.setCaller (fun r hr hi => absurd hi (hfree r hr))
      (fun r hr hi => absurd hi (hfree r (mem_held.mpr (Or.inl hr))))
      (fun r hr hi => absurd hi (hfree r (mem_held.mpr (Or.inr hr)))) (fun _ => hr) ?_
    rintro payload (h | h)
    · rw [hr] at h
      cases h
    · exact absurd h (ho payload)
  | @moves c c' queue hc hm hq =>
    have howner : ∀ r ∈ s.held, r.caller = i → c.method = r.method ∧ c.params = r.params ∧
        c.reply = .waiting := by
      rintro r hr rfl
      obtain ⟨d, hd, h⟩ := ht.owner r hr
      rw [hc] at hd
      cases hd
      exact h
    have hset := ht.setCaller (i := i) (c := c') (fun r hr hi => by
        rw [hm.method, hm.params, hm.reply]
        exact howner r hr hi)
      (fun r hr hi => absurd (ht.sending r hr c (hi ▸ hc)) hm.left.1)
      (fun r hr hi => hm.awaits (ht.entered r hr c (hi ▸ hc))
        (howner r (mem_held.mpr (Or.inr hr)) hi).2.2)
      (fun hp => absurd hp hm.came.1)
      (fun payload h => by
        rw [hm.method, hm.params]
        rw [hm.reply] at h
        refine ht.answered i c payload hc ?_
        rcases h with h | h
        · exact Or.inl h
        · exact (hm.ok payload h).symm)
    have hqueue : (queuedRequests queue : Multiset Request) =
        ↑(queuedRequests (s.setCaller i c').queue) := congrArg _ hq
    exact hset.relocate (by rw [hqueue]) hset.sending fun r hr => Or.inl (hq ▸ hr)
  | acquire hc hp => exact ht.acquire hc hp
  | enqueue hc hp hsend hi => exact ht.enqueue hc hsend hi
  | givesUp hc hp hg hsend hi => exact ht.givesUp hc hg hsend hi

/-- A caller whose request is on the wire puts nothing more there. -/
theorem SessionRun.Tidy.not_live {r : Request} (ht : s.Tidy) (hr : r ∈ s.sent) :
    ¬ s.Live r.caller := by
  have hentered : r ∈ s.entered := List.mem_append_right _ hr
  -- the same caller holds no second request
  have hdisjoint : ∀ q ∈ queuedRequests s.queue ++ s.phase.unsent, q.caller ≠ r.caller := by
    intro q hq he
    have hn := ht.single
    have hw : (s.phase.writing : Multiset Request) =
        ↑s.phase.unsent + ↑s.phase.flushed := by
      cases s.phase <;> simp [SessionPhase.writing, SessionPhase.unsent, SessionPhase.flushed]
    have hs : s.held = ↑s.sending + (↑(queuedRequests s.queue ++ s.phase.unsent) + ↑s.sent) := by
      simp only [held, hw, SessionRun.sent, ← Multiset.coe_add]
      abel
    rw [hs, Multiset.map_add, Multiset.map_add] at hn
    have hd := (Multiset.nodup_add.mp (Multiset.nodup_add.mp hn).2.1).2.2
    exact Multiset.disjoint_left.mp hd (Multiset.mem_map_of_mem _ (Multiset.mem_coe.mpr hq))
      (he ▸ Multiset.mem_map_of_mem _ (Multiset.mem_coe.mpr hr))
  rintro ⟨c, hc, hp | hp | ⟨-, q, hq, he⟩ | ⟨q, hq, he⟩⟩
  · have ha := ht.entered r hentered c hc
    simp [Caller.Awaits, hp] at ha
  · have ha := ht.entered r hentered c hc
    simp [Caller.Awaits, hp] at ha
  · exact hdisjoint q (List.mem_append_left _ hq) he
  · exact hdisjoint q (List.mem_append_right _ hq) he

theorem tidy_step {a : SessionActor} (ht : s.Tidy) (hs : SessionStep n writeTimeout s a s') :
    s'.Tidy := by
  cases a with
  | caller i => exact tidy_caller ht (caller_step hs)
  | session =>
    obtain ⟨rs, answer, h⟩ := sheds_step hs fun i hi => by cases hi
    exact ht.sheds h
  | clock =>
    obtain ⟨rs, answer, h⟩ := sheds_step hs fun i hi => by cases hi
    exact ht.sheds h

/-- What a step leaves of the callers, and where a new frame comes from. -/
structure SessionRun.Follows (s s' : SessionRun) (a : SessionActor) : Prop where
  callers : ∀ i c, s.callers i = some c → ∃ c', s'.callers i = some c' ∧ c'.method = c.method ∧
    c'.params = c.params ∧ (c.phase = .done → c'.phase = .done ∧ c'.observed = c.observed)
  new : ∀ i c', s.callers i = none → s'.callers i = some c' → a = .caller i
  waits : ∀ i, s'.Waits i → s.Waits i ∨ s.callers i = none
  live : ∀ i, s'.Live i → s.Live i ∨ s.callers i = none
  wire : s'.wire = s.wire ∨ ∃ (r : Request) (c : Caller), s.callers r.caller = some c ∧
    s.Live r.caller ∧ ¬ s'.Live r.caller ∧ s'.wire = s.wire ++ [⟨r.id, c.method, c.params⟩]

theorem SessionRun.Sheds.follows {rs : List Request} {answer : Request → Option Reply}
    {a : SessionActor} (ht : s.Tidy) (h : s.Sheds s' rs answer) : s.Follows s' a where
  callers i c hc := by
    rw [h.callers]
    simp only [settle]
    cases rs.find? (·.caller = i) with
    | none => exact ⟨c, hc, rfl, rfl, fun hp => ⟨hp, rfl⟩⟩
    | some r =>
      obtain ⟨hp, hm, hps, -, ho⟩ := answered_phase c (answer r)
      exact ⟨c.answered (answer r), by simp only [hc, Option.map_some], hm, hps,
        fun hd => ⟨hp.trans hd, ho⟩⟩
  new i c' hn hc' := by
    rw [h.callers] at hc'
    obtain ⟨c, hc, -⟩ := settle_callers hc'
    rw [hn] at hc
    cases hc
  waits i hw := by
    obtain ⟨c', hc', hp⟩ := hw
    rw [h.callers] at hc'
    obtain ⟨c, hc, rfl | ⟨r, -, -, rfl⟩⟩ := settle_callers hc'
    · exact Or.inl ⟨c', hc, hp⟩
    · rw [(answered_phase c _).1] at hp
      exact Or.inl ⟨c, hc, hp⟩
  live i hl := by
    obtain ⟨c', hc', hl⟩ := hl
    rw [h.callers] at hc'
    obtain ⟨c, hc, he⟩ := settle_callers hc'
    have hsame : c'.phase = c.phase ∧ c'.cancelled = c.cancelled := by
      rcases he with rfl | ⟨r, -, -, rfl⟩
      · exact ⟨rfl, rfl⟩
      · obtain ⟨hp, -, -, hcancel, -⟩ := answered_phase c (answer r)
        exact ⟨hp, hcancel⟩
    rw [hsame.1, hsame.2] at hl
    refine Or.inl ⟨c, hc, ?_⟩
    rcases hl with hp | hp | ⟨hcancel, r, hr, hi⟩ | ⟨r, hr, hi⟩
    · exact Or.inl hp
    · exact Or.inr (Or.inl hp)
    · exact Or.inr (Or.inr (Or.inl ⟨hcancel, r, h.queued r hr, hi⟩))
    · rcases h.unsent r hr with hr | ⟨hr, hcancel⟩
      · exact Or.inr (Or.inr (Or.inr ⟨r, hr, hi⟩))
      · rw [isCancelled, hi, hc] at hcancel
        exact Or.inr (Or.inr (Or.inl ⟨hcancel, r, hr, hi⟩))
  wire := by
    rcases h.wire with he | ⟨r, hr, he, hsent⟩
    · exact Or.inl he
    · have hentered : r ∈ s.entered :=
        List.mem_append_left _ (List.mem_append_right _ hr)
      obtain ⟨c, hc, hm, hp, -⟩ := ht.owner r (mem_held.mpr (Or.inr hentered))
      refine Or.inr ⟨r, c, hc, ⟨c, hc, Or.inr (Or.inr (Or.inr ⟨r, hr, rfl⟩))⟩, ?_, ?_⟩
      · exact (ht.sheds h).not_live hsent
      · rw [he, hm, hp]

/-- A step of one caller that leaves the wire and the other callers. -/
theorem follows_of_callers (hwire : s'.wire = s.wire)
    (hother : ∀ j, j ≠ i → s'.callers j = s.callers j)
    (hself : ∀ c, s.callers i = some c → c.phase ≠ .done ∧ ∃ c', s'.callers i = some c' ∧
      c'.method = c.method ∧ c'.params = c.params)
    (hwaits : s'.Waits i → s.Waits i ∨ s.callers i = none)
    (hlive : s'.Live i → s.Live i ∨ s.callers i = none)
    (hqueued : ∀ r ∈ queuedRequests s'.queue, r.caller ≠ i → r ∈ queuedRequests s.queue)
    (hunsent : s'.phase.unsent = s.phase.unsent) : s.Follows s' (.caller i) where
  callers j c hc := by
    by_cases hj : j = i
    · subst hj
      obtain ⟨hp, c', hc', hm, hps⟩ := hself c hc
      exact ⟨c', hc', hm, hps, fun hd => absurd hd hp⟩
    · exact ⟨c, by rw [hother j hj, hc], rfl, rfl, fun hp => ⟨hp, rfl⟩⟩
  new j c' hn hc' := by
    by_cases hj : j = i
    · rw [hj]
    · rw [hother j hj, hn] at hc'
      cases hc'
  waits j hw := by
    by_cases hj : j = i
    · subst hj
      exact hwaits hw
    · obtain ⟨c, hc, hp⟩ := hw
      rw [hother j hj] at hc
      exact Or.inl ⟨c, hc, hp⟩
  live j hl := by
    by_cases hj : j = i
    · subst hj
      exact hlive hl
    · obtain ⟨c, hc, hl⟩ := hl
      rw [hother j hj] at hc
      refine Or.inl ⟨c, hc, ?_⟩
      rw [hunsent] at hl
      rcases hl with hp | hp | ⟨hcancel, r, hr, he⟩ | hr
      · exact Or.inl hp
      · exact Or.inr (Or.inl hp)
      · exact Or.inr (Or.inr (Or.inl ⟨hcancel, r, hqueued r hr (he ▸ hj), he⟩))
      · exact Or.inr (Or.inr (Or.inr hr))
  wire := Or.inl hwire

theorem caller_follows (hs : CallerStep s i s') : s.Follows s' (.caller i) := by
  cases hs with
  | new c hc _ _ =>
    refine follows_of_callers rfl (fun j hj => setCaller_ne hj) (fun d hd => ?_)
      (fun _ => Or.inr hc) (fun _ => Or.inr hc) (fun r hr _ => hr) rfl
    · rw [hc] at hd
      cases hd
  | @moves c c' queue hc hm hq =>
    refine follows_of_callers rfl (fun j hj => setCaller_ne hj) (fun d hd => ?_) ?_ ?_
      (fun r hr _ => by rw [← hq]; exact hr) rfl
    · rw [hc] at hd
      cases hd
      exact ⟨hm.left.2, c', setCaller_self, hm.method, hm.params⟩
    · rintro ⟨d, hd, hp⟩
      rw [show ({ s.setCaller i c' with queue := queue } : SessionRun).callers i = some c' from
        setCaller_self] at hd
      cases hd
      rcases hp with hp | hp
      · exact absurd hp hm.came.1
      · exact absurd hp hm.came.2
    · rintro ⟨d, hd, hl⟩
      rw [show ({ s.setCaller i c' with queue := queue } : SessionRun).callers i = some c' from
        setCaller_self] at hd
      cases hd
      refine Or.inl ⟨c, hc, ?_⟩
      rcases hl with hp | hp | ⟨hcancel, r, hr, he⟩ | hr
      · exact absurd hp hm.came.1
      · exact absurd hp hm.came.2
      · refine Or.inr (Or.inr (Or.inl ⟨?_, r, by rw [← hq]; exact hr, he⟩))
        cases hcc : c.cancelled with
        | false => rfl
        | true =>
          rw [hm.cancelled hcc] at hcancel
          cases hcancel
      · exact Or.inr (Or.inr (Or.inr hr))
  | @acquire c permit rest hc hp =>
    refine follows_of_callers rfl (fun j hj => setCaller_ne hj) (fun d hd => ?_)
      (fun _ => Or.inl ⟨c, hc, Or.inl hp⟩) (fun _ => Or.inl ⟨c, hc, Or.inl hp⟩) (fun r hr _ => hr)
      rfl
    · rw [hc] at hd
      cases hd
      exact ⟨by simp [hp], _, setCaller_self, rfl, rfl⟩
  | @enqueue c r before after hc hp hsend hi =>
    refine follows_of_callers rfl (fun j hj => setCaller_ne hj) (fun d hd => ?_)
      (fun _ => Or.inl ⟨c, hc, Or.inr hp⟩) (fun _ => Or.inl ⟨c, hc, Or.inr (Or.inl hp)⟩) ?_ rfl
    · rw [hc] at hd
      cases hd
      exact ⟨by simp [hp], _, setCaller_self, rfl, rfl⟩
    · intro q hq hne
      rcases List.mem_append.mp (queuedRequests_append s.queue [.request r] ▸ hq) with hq | hq
      · exact hq
      · have hqr : q = r := by simpa using hq
        exact absurd (hqr ▸ hi) hne
  | @givesUp c c' r before after hc hp hg hsend hi =>
    refine follows_of_callers rfl (fun j hj => ?_) (fun d hd => ?_)
      (fun _ => Or.inl ⟨c, hc, Or.inr hp⟩) (fun _ => Or.inl ⟨c, hc, Or.inr (Or.inl hp)⟩)
      (fun q hq _ => hq) rfl
    · rw [setCaller_ne hj]
      refine settle_callers_of_ne fun q hq he => hj ?_
      rw [← he, List.mem_singleton.mp hq, hi]
    · rw [hc] at hd
      cases hd
      exact ⟨by simp [hp], c', setCaller_self, hg.method, hg.params⟩

theorem follows_step {a : SessionActor} (ht : s.Tidy) (hs : SessionStep n writeTimeout s a s') :
    s.Follows s' a := by
  cases a with
  | caller i => exact caller_follows (caller_step hs)
  | session =>
    obtain ⟨rs, answer, h⟩ := sheds_step hs fun i hi => by cases hi
    exact h.follows ht
  | clock =>
    obtain ⟨rs, answer, h⟩ := sheds_step hs fun i hi => by cases hi
    exact h.follows ht

theorem tidy_initial {now : Nanos} {permits : List Nat} {nextRequestId : UInt64}
    {wire : List WireRequest} : SessionRun.Tidy {
      now := now, permits := permits, nextRequestId := nextRequestId, callers := fun _ => none,
      sending := [], queue := [], phase := .top, pending := [], closed := none, wire := wire,
      assigned := [], refused := [], arrivals := [] } where
  single := Multiset.nodup_zero
  owner r hr := by simp [held] at hr
  sending r hr := by cases hr
  entered r hr := by cases hr
  waiting i c hc := by cases hc
  sent r hr := by cases hr
  answered i c payload hc := by cases hc

/-- How the line to the wire moves: requests leave it, the first of them for the wire, or one joins
at its end. -/
inductive LineStep (s s' : SessionRun) : Prop
  | leave : s'.line.Sublist s.line → s'.wire = s.wire → LineStep s s'
  | write (r : Request) : s.line = r :: s'.line →
      s'.wire = s.wire ++ [⟨r.id, r.method, r.params⟩] → LineStep s s'
  | join (r : Request) : r ∈ s.sending → s'.line = s.line ++ [r] → s'.wire = s.wire → LineStep s s'

theorem line_phase {phase : SessionPhase} (hu : phase.unsent = [])
    (hline : s'.line = phase.unsent ++ queuedRequests s.queue) (hwire : s'.wire = s.wire) :
    LineStep s s' := by
  refine .leave ?_ hwire
  rw [hline, hu, List.nil_append]
  exact List.sublist_append_right _ _

theorem line_caller (hs : CallerStep s i s') : LineStep s s' := by
  cases hs with
  | new c _ _ _ => exact .leave (List.Sublist.refl _) rfl
  | moves queue _ _ hq =>
    refine .leave ?_ rfl
    simp only [line, hq]
    exact List.Sublist.refl _
  | acquire _ _ => exact .leave (List.Sublist.refl _) rfl
  | @enqueue c r before after hc hp hsend hi =>
    refine .join r ?_ ?_ rfl
    · rw [hsend]
      exact List.mem_append_right _ List.mem_cons_self
    · simp only [line, queuedRequests_append, List.append_assoc]
      rfl
  | givesUp _ _ _ _ _ => exact .leave (List.Sublist.refl _) rfl

theorem line_step {a : SessionActor} (hs : SessionStep n writeTimeout s a s') :
    LineStep s s' := by
  cases a with
  | caller i => exact line_caller (caller_step hs)
  | session =>
    cases hs with
    | @request r rest later hp hq _ =>
      have hrest : ∀ {phase : SessionPhase} {s' : SessionRun}, phase.unsent = [] →
          s'.line = phase.unsent ++ queuedRequests rest → s'.wire = s.wire → LineStep s s' := by
        intro phase s' hu hline hwire
        refine .leave ?_ hwire
        rw [hline, hu, line, hp, hq, queuedRequests_request]
        exact List.sublist_cons_self _ _
      unfold onRequest
      split
      · exact hrest unsent_top rfl rfl
      · split
        · exact hrest unsent_top rfl rfl
        · refine .leave ?_ rfl
          simp only [line, hp, hq, queuedRequests_request]
          exact List.Sublist.refl _
    | @cancelRequest id rest hp hq =>
      refine .leave ?_ rfl
      simp only [line, onCancelRequest, settle, hp, hq, queuedRequests_cancelRequest]
      exact List.Sublist.refl _
    | message message _ =>
      rcases message with _ | ⟨id, ok, payload, error⟩ | _ | (_ | _ | _) | _ | _ | _ | _
      all_goals exact line_phase unsent_top rfl rfl
    | @start r expires wins hp =>
      exact .write r (by simp [line, hp, SessionRun.start, SessionPhase.unsent]) rfl
    | @failWrite r expires wins failure _ _ =>
      cases failure with
      | timedOut => exact line_phase unsent_top rfl rfl
      | transport error => exact line_phase unsent_top rfl rfl
    | dropQueue hp =>
      refine .leave ?_ rfl
      simp only [line, dropQueue, SessionPhase.unsent, queuedRequests_nil, List.append_nil]
      exact List.nil_sublist _
    | failPending _ _ => exact .leave (List.Sublist.refl _) rfl
    | purge _ _ _ | closeByClient _ | expire _ _ | rejectByGuard _ _ _ | written _
    | announce _ _ => exact line_phase unsent_top rfl rfl
  | clock =>
    cases hs with
    | tick _ _ => exact .leave (List.Sublist.refl _) rfl

end OpenclawNode.Gateway
