import OpenclawNode.Legacy.SessionInvariant

/-! The session's task: each of its steps answers or drops some of what the session owes. -/
namespace OpenclawNode.Legacy

open Gateway (WireRequest)
open Node (Nanos)

namespace SessionRun

variable {n : Nat} {requestTimeout : Nanos} {s s' : SessionRun} {a : SessionActor} {r : Request}
  {answer : Request → Option Reply}

/-- The session task goes on, and every request stays with it. -/
theorem settles_moved {now : Nanos} {commands : List SessionCommand} {phase : SessionPhase}
    {closed : Option SessionCloseCause} {wire : List WireRequest} (h : s.Owes)
    (howed : owed { s with commands := commands, phase := phase } = s.owed)
    (hspoken : spoken { s with commands := commands, wire := wire } ≤ s.spoken)
    (hended : s.phase = .ended → phase = .ended)
    (hannounced : phase = .announced → s.pending = [] ∧ ∃ cause, closed = some cause)
    (hclosed : phase = .ended → s.phase = .ended ∧ closed = s.closed) :
    s.Settles { s with
      now := now, commands := commands, phase := phase, closed := closed, wire := wire } []
      fun _ => none where
  callers := rfl
  inFlight := rfl
  holders := rfl
  nextRequestId := rfl
  assigned := rfl
  owed := howed.symm.trans (zero_add _).symm
  spoken := hspoken
  cancellations _ hid := hid
  accounted _ _ hid := hid
  dropped := nofun
  ended := hended
  announced := hannounced
  closed hp := by
    obtain ⟨hphase, rfl⟩ := hclosed hp
    exact ⟨howed.trans (h.ended hphase).1, (h.ended hphase).2⟩

/-- Pending requests are answered or dropped. -/
theorem settles_filter {id : String} {cancellations overtaken : List String}
    (hp : s.phase = .selecting) (hcancel : ∀ id ∈ cancellations, id ∈ s.cancellations)
    (haccounted : ∀ r, r ∈ queuedRequests s.commands ∨ r.id ≠ id →
      r.id ∈ s.cancellations ∨ r.id ∈ s.overtaken → r.id ∈ cancellations ∨ r.id ∈ overtaken)
    (hdropped : ∀ r, r.id = id → answer r = none → id ∈ s.cancellations) :
    s.Settles { s.settle (s.pending.filter (·.id = id)) answer with
      cancellations := cancellations
      pending := s.pending.filter (¬ ·.id = id)
      overtaken := overtaken } (s.pending.filter (·.id = id)) answer where
  callers := rfl
  inFlight := rfl
  holders := rfl
  nextRequestId := rfl
  assigned := rfl
  owed := by
    have hpending : (s.pending : Multiset Request) =
        ↑(s.pending.filter (·.id = id)) + ↑(s.pending.filter (¬ ·.id = id)) :=
      (Multiset.filter_add_not (fun r : Request => r.id = id) ↑s.pending).symm
    simp only [SessionRun.owed, SessionRun.settle, hp, hpending]
    abel
  spoken := le_rfl
  cancellations := hcancel
  accounted r hr hid := by
    refine haccounted r ?_ hid
    simp only [SessionRun.owed, SessionRun.settle, hp, written_selecting, Multiset.mem_add,
      Multiset.mem_coe] at hr
    rcases hr with (hr | hr) | hr
    · exact Or.inl hr
    · cases hr
    · exact Or.inr (by simpa using (List.mem_filter.mp hr).2)
  dropped r hr hanswer := by
    have hid : r.id = id := by simpa using (List.mem_filter.mp hr).2
    exact Or.inr (hid ▸ hdropped r hid hanswer)
  ended hended := by
    rw [hp] at hended
    cases hended
  announced hannounced := by cases hp.symm.trans hannounced
  closed hended := by cases hp.symm.trans hended

theorem settles_takeCancellation (hp : s.phase = .selecting) {id : String} {rest : List String}
    (hl : s.cancellations = id :: rest) :
    s.Settles (s.takeCancellation id rest) (s.pending.filter (·.id = id)) fun _ => none := by
  refine settles_filter hp (fun id' hid => ?_) (fun r hr hid => ?_) fun _ _ _ => ?_
  · rw [hl]
    exact List.mem_cons_of_mem _ hid
  · by_cases hsame : r.id = id
    · -- The cancellation found its request in the channel.
      have hq : r ∈ queuedRequests s.commands := hr.resolve_right (absurd hsame)
      have hany : (queuedRequests s.commands).any (·.id = id) = true :=
        List.any_eq_true.mpr ⟨r, hq, by simpa using hsame⟩
      rw [if_pos hany, hsame]
      exact Or.inr (List.mem_append.mpr (Or.inr (List.mem_singleton.mpr rfl)))
    · rw [hl, List.mem_cons] at hid
      refine hid.imp (Or.resolve_left · hsame) fun hmem => ?_
      split
      · exact List.mem_append.mpr (Or.inl hmem)
      · exact hmem
  · rw [hl]
    exact List.mem_cons_self

theorem settles_takeRequest (h : s.Owes) (hp : s.phase = .selecting) {rest : List SessionCommand}
    (hl : s.commands = .request r :: rest) :
    s.Settles (s.takeRequest r rest) [] fun _ => none := by
  refine settles_moved h ?_ ?_ (fun hended => ?_) nofun nofun
  · simp only [owed, hp, hl, queuedRequests_request, written_selecting, written_writing]
    rw [← Multiset.cons_coe r (queuedRequests rest), ← Multiset.singleton_add,
      Multiset.coe_singleton, Multiset.coe_nil]
    abel
  · apply le_of_eq
    simp only [spoken, hl, queuedRequests_request, List.map_append, List.map_cons, List.map_nil,
      ← Multiset.coe_add, Multiset.coe_singleton]
    rw [← Multiset.cons_coe, ← Multiset.singleton_add]
    abel
  · cases hp.symm.trans hended

/-- What is written is under an id of its own. -/
theorem settles_insertPending (h : s.Owes) (hn : s.Named) (hp : s.phase = .writing r) :
    s.Settles (s.insertPending r) [] fun _ => none := by
  have hr : r ∈ s.owed := by simp [owed, hp]
  have hnone : ∀ r' ∈ s.pending, r'.id ≠ r.id := by
    intro r' hr' hid
    have hcaller := h.owed_id_inj hn (Multiset.mem_add.mpr (Or.inr hr')) hr hid
    have hsingle := h.single
    rw [owed, hp, Multiset.map_add, Multiset.map_add, Multiset.nodup_add] at hsingle
    refine Multiset.disjoint_left.mp hsingle.2.2 ?_ (Multiset.mem_map.mpr ⟨r', hr', hcaller⟩)
    simp
  have hall : s.pending.filter (¬ ·.id = r.id) = s.pending :=
    List.filter_eq_self.mpr fun r' hr' => by simpa using hnone r' hr'
  have hdrop : s.pending.filter (·.id = r.id) = [] :=
    List.filter_eq_nil_iff.mpr fun r' hr' => by simpa using hnone r' hr'
  have howed : s.owed = (s.insertPending r).owed := by
    simp only [owed, insertPending, settle, hp, hall, written_writing, written_selecting,
      ← Multiset.coe_add, Multiset.coe_nil]
    abel
  refine ⟨?_, rfl, rfl, rfl, rfl, ?_, le_rfl, fun _ hid => hid, fun _ _ hid => hid,
    fun r' hr' => ?_, fun hended => ?_, fun hannounced => ?_, fun hended => ?_⟩
  · rw [insertPending, hdrop]
  · rw [← howed]
    exact (zero_add _).symm
  · cases hr'
  · cases hp.symm.trans hended
  · cases hannounced
  · cases hended

theorem settles_failWrite (hp : s.phase = .writing r) (error : String) :
    s.Settles (s.failWrite r error) [r] fun _ => some (.error (.transport error)) := by
  refine ⟨rfl, rfl, rfl, rfl, rfl, ?_, le_rfl, fun _ hid => hid, fun _ _ hid => hid,
    fun _ _ hnone => ?_, fun hended => ?_, fun hannounced => ?_, fun hended => ?_⟩
  · simp only [owed, failWrite, settle, hp, written_writing, written_selecting, Multiset.coe_nil,
      Multiset.coe_singleton]
    abel
  · cases hnone
  · cases hp.symm.trans hended
  · cases hannounced
  · cases hended

/-- The session leaves its loop. -/
theorem settles_failing (h : s.Owes) (hp : s.phase = .selecting) (cause : SessionCloseCause) :
    s.Settles { s with phase := .failing cause } [] fun _ => none := by
  refine settles_moved h ?_ le_rfl (fun hended => ?_) nofun nofun
  · simp [owed, hp]
  · cases hp.symm.trans hended

theorem settles_takeClose (h : s.Owes) (hp : s.phase = .selecting) {rest : List SessionCommand}
    (hl : s.commands = .close :: rest) :
    s.Settles { s with commands := rest, phase := .failing (.closed "closed by client") } []
      fun _ => none := by
  refine settles_moved h ?_ ?_ (fun hended => ?_) nofun nofun
  · simp [owed, hp, hl]
  · simp [spoken, hl]
  · cases hp.symm.trans hended

theorem settles_onMessage (h : s.Owes) (hp : s.phase = .selecting) (message : Inbound) :
    ∃ gone answer, s.Settles (s.onMessage message) gone answer := by
  have hsame : s.Settles s [] fun _ => none :=
    settles_moved h rfl le_rfl id h.announced fun hended => ⟨hended, rfl⟩
  rcases message with _ | ⟨id, ok, payload, error⟩ | error | (_ | error) | reason | _ | error | _
  case response =>
    exact ⟨_, _, settles_filter hp (fun _ hid => hid) (fun _ _ hid => hid) nofun⟩
  case event | ping.none | ignored => exact ⟨_, _, hsame⟩
  all_goals exact ⟨_, _, settles_failing h hp _⟩

theorem settles_failPending {cause : SessionCloseCause} {before after : List Request}
    (hp : s.phase = .failing cause) (hpending : s.pending = before ++ r :: after) :
    s.Settles ({ s with pending := before ++ after }.settle [r] fun r =>
      some (.error (cause.pendingRequestError r.method))) [r]
      fun r => some (.error (cause.pendingRequestError r.method)) := by
  refine ⟨rfl, rfl, rfl, rfl, rfl, ?_, le_rfl, fun _ hid => hid, fun _ _ hid => hid, nofun, id,
    fun hannounced => ?_, fun hended => ?_⟩
  · have hperm : (s.pending : Multiset Request) = {r} + ↑(before ++ after) := by
      rw [hpending, Multiset.singleton_add, Multiset.cons_coe, Multiset.coe_eq_coe]
      exact List.perm_middle
    simp only [owed, settle, hperm, Multiset.coe_singleton]
    abel
  · cases hp.symm.trans hannounced
  · cases hp.symm.trans hended

theorem settles_dropQueue (h : s.Owes) (hp : s.phase = .announced) :
    s.Settles s.dropQueue (queuedRequests s.commands) fun _ => none := by
  obtain ⟨hpending, hcause⟩ := h.announced hp
  refine ⟨rfl, rfl, rfl, rfl, rfl, ?_, ?_, fun _ hid => hid, fun _ _ hid => hid,
    fun _ _ _ => Or.inl rfl, fun _ => rfl, nofun, fun _ => ⟨?_, hcause⟩⟩
  · simp [owed, dropQueue, settle, hp, hpending]
  · exact add_le_add_right (Multiset.zero_le _) _
  · simp [owed, dropQueue, settle, hpending]

/-- Every step that is none of a caller answers or drops some of what the session owes. -/
theorem Owes.settles (h : s.Owes) (hn : s.Named) (hs : SessionStep n requestTimeout s a s')
    (ha : ∀ i, a ≠ .caller i) : ∃ gone answer, s.Settles s' gone answer := by
  cases hs with
  | sendClose _ _ =>
    refine ⟨_, _, settles_moved h ?_ ?_ id h.announced fun hended => ⟨hended, rfl⟩⟩
    · simp [owed]
    · simp [spoken]
  | takeCancellation hp hl => exact ⟨_, _, settles_takeCancellation hp hl⟩
  | takeRequest hp hl => exact ⟨_, _, settles_takeRequest h hp hl⟩
  | written hp => exact ⟨_, _, settles_insertPending h hn hp⟩
  | failWrite error hp => exact ⟨_, _, settles_failWrite hp error⟩
  | takeClose hp hl => exact ⟨_, _, settles_takeClose h hp hl⟩
  | abandoned hp _ _ => exact ⟨_, _, settles_failing h hp _⟩
  | message message hp => exact settles_onMessage h hp message
  | failPending hp hpending => exact ⟨_, _, settles_failPending hp hpending⟩
  | announce hp hpending =>
    refine ⟨_, _, settles_moved h ?_ le_rfl (fun hended => ?_) (fun _ => ⟨hpending, _, rfl⟩)
      fun hended => ?_⟩
    · simp [owed, hp]
    · cases hp.symm.trans hended
    · cases hended
  | dropQueue hp => exact ⟨_, _, settles_dropQueue h hp⟩
  | tick later _ =>
    exact ⟨_, _, settles_moved h rfl le_rfl id h.announced fun hended => ⟨hended, rfl⟩⟩
  | _ => exact absurd rfl (ha _)

end SessionRun
end OpenclawNode.Legacy
