import OpenclawNode.Base.Numbering
import OpenclawNode.Legacy.Session

/-! What holds of the callers, the permits and the requests that a session owes an answer. -/
namespace OpenclawNode.Legacy

open Gateway (WireRequest)
open Node (Nanos)
open Numbering (Issued)

variable {n i : Nat} {requestTimeout : Nanos} {s s' : SessionRun} {a : SessionActor}
  {c c' : Caller} {gone : List Request} {answer : Request → Option Reply}

theorem requestId_injective : Function.Injective requestId :=
  Numbering.repr_injective "rust-node-"

theorem requestId_ne_connectId (k : UInt64) : requestId k ≠ connectId :=
  Numbering.repr_ne "rust-node-" "connect-1" (c := 'c') (by decide) rfl k

def CallerPhase.holdsPermit : CallerPhase → Bool
  | .waitingPermit => false
  | .sending => true
  | .waitingReply _ => true
  | .cancelling => true
  | .done => false

/-- The phases before the request is in the channel. -/
def CallerPhase.unsent : CallerPhase → Bool
  | .waitingPermit => true
  | .sending => true
  | .waitingReply _ => false
  | .cancelling => false
  | .done => false

namespace SessionRun

/-- The requests that are queued, being written or pending. -/
def owed (s : SessionRun) : Multiset Request :=
  ↑(queuedRequests s.commands) + ↑s.phase.written + ↑s.pending

/-- The ids that are on the wire or may still come there. -/
def spoken (s : SessionRun) : Multiset String :=
  ↑(s.wire.map WireRequest.id) + ↑((queuedRequests s.commands).map Request.id)

/-- Why a request may still be with the session: its caller waits or is about to cancel it, was
dropped, or timed out with the cancellation on its way or taken too early. -/
def Accounted (s : SessionRun) (c : Caller) (id : String) : Prop :=
  match c.phase with
  | .waitingPermit => False
  | .sending => False
  | .waitingReply _ => True
  | .cancelling => True
  | .done => c.observed = [] ∨
      c.observed = [.error (.requestTimeout c.method)] ∧ (id ∈ s.cancellations ∨ id ∈ s.overtaken)

end SessionRun

@[simp] theorem queuedRequests_nil : queuedRequests [] = [] := rfl

@[simp] theorem queuedRequests_request (r : Request) (commands : List SessionCommand) :
    queuedRequests (.request r :: commands) = r :: queuedRequests commands := rfl

@[simp] theorem queuedRequests_close (commands : List SessionCommand) :
    queuedRequests (.close :: commands) = queuedRequests commands := rfl

@[simp] theorem queuedRequests_append (commands rest : List SessionCommand) :
    queuedRequests (commands ++ rest) = queuedRequests commands ++ queuedRequests rest :=
  List.filterMap_append

@[simp] theorem holders_setCaller : (s.setCaller i c).holders = s.holders := rfl

@[simp] theorem written_selecting : SessionPhase.selecting.written = [] := rfl

@[simp] theorem written_writing (r : Request) : (SessionPhase.writing r).written = [r] := rfl

@[simp] theorem written_failing (cause : SessionCloseCause) :
    (SessionPhase.failing cause).written = [] := rfl

@[simp] theorem written_announced : SessionPhase.announced.written = [] := rfl

@[simp] theorem written_ended : SessionPhase.ended.written = [] := rfl

/-- What holds of a caller alone. -/
structure Caller.Sound (c : Caller) : Prop where
  unassigned : c.phase = .waitingPermit → c.id = none
  unsent : c.phase.unsent = true → c.reply = .waiting
  single : c.observed.length ≤ 1
  quiet : c.phase ≠ .done → c.observed = []

/-- Of a caller whose request is sent less is to be known. -/
theorem Caller.sound_of_sent (hp : c.phase.unsent = false) (hsingle : c.observed.length ≤ 1)
    (hquiet : c.phase ≠ .done → c.observed = []) : c.Sound where
  unassigned hw := by
    rw [hw] at hp
    cases hp
  unsent hu := by cases hp.symm.trans hu
  single := hsingle
  quiet := hquiet

/-- What a step does to a caller that it does not give an id. -/
structure Caller.Evolves (c c' : Caller) : Prop where
  id : c'.id = c.id
  method : c'.method = c.method
  sound : c.Sound → c'.Sound
  sent : c.phase.unsent = false → c'.phase.unsent = false
  done : c.phase = .done → c'.phase = .done

/-- Every caller evolves, and a new one has no id. -/
structure SessionRun.Evolves (s s' : SessionRun) : Prop where
  old : ∀ j d, s.callers j = some d → ∃ d', s'.callers j = some d' ∧ d.Evolves d'
  new : ∀ j d', s.callers j = none → s'.callers j = some d' → d'.id = none ∧ d'.Sound

/-- An id that a caller has now it had before. -/
theorem SessionRun.Evolves.back (h : s.Evolves s') {j : Nat} {d' : Caller} {id : String}
    (hd' : s'.callers j = some d') (hid : d'.id = some id) :
    ∃ d, s.callers j = some d ∧ d.id = some id := by
  cases hd : s.callers j with
  | none => cases (h.new j d' hd hd').1.symm.trans hid
  | some d =>
    obtain ⟨d₁, hd₁, he⟩ := h.old j d hd
    cases hd₁.symm.trans hd'
    exact ⟨d, rfl, he.id.symm.trans hid⟩

theorem Caller.Evolves.refl (c : Caller) : c.Evolves c :=
  ⟨rfl, rfl, fun h => h, fun h => h, fun h => h⟩

theorem Caller.Evolves.answered (answer : Option Reply) (hp : c.phase.unsent = false) :
    c.Evolves (c.answered answer) := by
  cases answer with
  | none | some reply =>
    exact ⟨rfl, rfl, fun h => Caller.sound_of_sent hp h.single h.quiet, fun h => h, fun h => h⟩

section

open SessionRun

theorem evolves_update (hc : s.callers i = some c) (he : c.Evolves c')
    (hs : s'.callers = Function.update s.callers i (some c')) : s.Evolves s' where
  old j d hd := by
    rw [hs]
    by_cases hji : j = i
    · subst hji
      cases hc.symm.trans hd
      exact ⟨c', Function.update_self .., he⟩
    · exact ⟨d, by rw [Function.update_of_ne hji, hd], .refl d⟩
  new j d' hd hd' := by
    have hji : j ≠ i := by
      rintro rfl
      cases hc.symm.trans hd
    rw [hs, Function.update_of_ne hji, hd] at hd'
    cases hd'

theorem evolves_new (hc : s.callers i = none) (hid : c'.id = none) (hsound : c'.Sound)
    (hs : s'.callers = Function.update s.callers i (some c')) : s.Evolves s' where
  old j d hd := by
    have hji : j ≠ i := by
      rintro rfl
      cases hc.symm.trans hd
    exact ⟨d, by rw [hs, Function.update_of_ne hji, hd], .refl d⟩
  new j d' hd hd' := by
    rw [hs] at hd'
    by_cases hji : j = i
    · subst hji
      rw [Function.update_self] at hd'
      cases hd'
      exact ⟨hid, hsound⟩
    · rw [Function.update_of_ne hji, hd] at hd'
      cases hd'

/-- A caller is answered by its request alone. -/
theorem settle_cases {j : Nat} {d' : Caller} (hd' : (s.settle gone answer).callers j = some d') :
    (s.callers j = some d' ∧ ∀ r ∈ gone, r.caller ≠ j) ∨
    ∃ r ∈ gone, ∃ d, r.caller = j ∧ s.callers j = some d ∧ d' = d.answered (answer r) := by
  simp only [settle] at hd'
  cases hf : gone.find? (·.caller = j) with
  | none =>
    rw [hf] at hd'
    exact Or.inl ⟨hd', fun r hr => by simpa using List.find?_eq_none.mp hf r hr⟩
  | some r =>
    rw [hf] at hd'
    obtain ⟨d, hd, rfl⟩ := Option.map_eq_some_iff.mp hd'
    exact Or.inr ⟨r, List.mem_of_find?_eq_some hf, d, by simpa using List.find?_some hf, hd, rfl⟩

theorem settle_of_ne {j : Nat} (h : ∀ r ∈ gone, r.caller ≠ j) :
    (s.settle gone answer).callers j = s.callers j := by
  simp only [settle]
  rw [List.find?_eq_none.mpr (by simpa using h)]

theorem evolves_settle (hs : s'.callers = (s.settle gone answer).callers)
    (h : ∀ r ∈ gone, ∀ c, s.callers r.caller = some c → c.phase.unsent = false) :
    s.Evolves s' where
  old j d hd := by
    rw [hs]
    simp only [settle]
    cases hf : gone.find? (·.caller = j) with
    | none => exact ⟨d, hd, .refl d⟩
    | some r =>
      have hj : r.caller = j := by simpa using List.find?_some hf
      exact ⟨d.answered (answer r), by rw [hd]; rfl,
        .answered _ (h r (List.mem_of_find?_eq_some hf) d (hj ▸ hd))⟩
  new j d' hd hd' := by
    rw [hs] at hd'
    simp only [settle, hd, Option.map_none] at hd'
    split at hd' <;> cases hd'

end

/-- What holds of the ids: callers do not share one, and none comes to the wire twice. -/
structure SessionRun.Named (s : SessionRun) : Prop where
  issued : Issued requestId s.nextRequestId s.assigned
  callers : ∀ i c, s.callers i = some c → c.Sound
  assigned : ∀ i c id, s.callers i = some c → c.id = some id → id ∈ s.assigned
  distinct : ∀ i j c d id, s.callers i = some c → s.callers j = some d → c.id = some id →
    d.id = some id → i = j
  spoken : s.spoken.Nodup
  sent : ∀ id ∈ s.spoken, id = connectId ∨
    ∃ i c, s.callers i = some c ∧ c.id = some id ∧ c.phase.unsent = false

/-- What holds of the requests that the session owes an answer, and of the callers that wait. -/
structure SessionRun.Owes (s : SessionRun) : Prop where
  single : (s.owed.map Request.caller).Nodup
  owner : ∀ r ∈ s.owed, ∃ c, s.callers r.caller = some c ∧ c.id = some r.id ∧
    c.method = r.method ∧ c.reply = .waiting ∧ s.Accounted c r.id
  waiting : ∀ i c deadline, s.callers i = some c → c.phase = .waitingReply deadline →
    c.reply = .waiting → ∃ r ∈ s.owed, r.caller = i
  shut : ∀ i c deadline, s.callers i = some c → c.phase = .waitingReply deadline →
    c.reply = .closed → s.phase = .ended
  cancelled : ∀ id ∈ s.cancellations, ∃ i c, s.callers i = some c ∧ c.id = some id ∧
    c.phase = .done
  announced : s.phase = .announced → s.pending = [] ∧ ∃ cause, s.closed = some cause
  ended : s.phase = .ended → s.owed = 0 ∧ ∃ cause, s.closed = some cause

/-- What holds of the permits. -/
structure SessionRun.Permitted (n : Nat) (s : SessionRun) : Prop where
  permits : s.inFlight + s.holders.card = n
  holders : ∀ i, i ∈ s.holders ↔ ∃ c, s.callers i = some c ∧ c.phase.holdsPermit = true

namespace SessionRun

theorem Accounted.sent {id : String} (h : s.Accounted c id) : c.phase.unsent = false := by
  unfold Accounted at h
  cases hp : c.phase with
  | waitingPermit | sending =>
    rw [hp] at h
    exact h.elim
  | waitingReply | cancelling | done => rfl

/-- What the session knows of a caller that gave up stays known. -/
theorem Accounted.mono {id : String} (h : s.Accounted c id)
    (hk : id ∈ s.cancellations ∨ id ∈ s.overtaken → id ∈ s'.cancellations ∨ id ∈ s'.overtaken) :
    s'.Accounted c id := by
  unfold Accounted at h ⊢
  cases hp : c.phase with
  | waitingPermit | sending =>
    rw [hp] at h
    exact h.elim
  | waitingReply | cancelling => trivial
  | done =>
    rw [hp] at h
    exact h.imp_right fun ⟨htimed, hwhere⟩ => ⟨htimed, hk hwhere⟩

theorem Named.evolve (h : s.Named) (he : s.Evolves s') (hn : s'.nextRequestId = s.nextRequestId)
    (ha : s'.assigned = s.assigned) (hs : s'.spoken ≤ s.spoken) : s'.Named where
  issued := by
    rw [hn, ha]
    exact h.issued
  callers i c' hc' := by
    cases hc : s.callers i with
    | none => exact (he.new i c' hc hc').2
    | some c =>
      obtain ⟨d, hd, he⟩ := he.old i c hc
      cases hd.symm.trans hc'
      exact he.sound (h.callers i c hc)
  assigned i c' id hc' hid := by
    obtain ⟨c, hc, hid⟩ := he.back hc' hid
    rw [ha]
    exact h.assigned i c id hc hid
  distinct i j c' d' id hc' hd' hcid hdid := by
    obtain ⟨c, hc, hcid⟩ := he.back hc' hcid
    obtain ⟨d, hd, hdid⟩ := he.back hd' hdid
    exact h.distinct i j c d id hc hd hcid hdid
  spoken := Multiset.nodup_of_le hs h.spoken
  sent id hid := by
    rcases h.sent id (Multiset.mem_of_le hs hid) with hconnect | ⟨i, c, hc, hcid, hsent⟩
    · exact Or.inl hconnect
    · obtain ⟨c', hc', he⟩ := he.old i c hc
      exact Or.inr ⟨i, c', hc', he.id.trans hcid, he.sent hsent⟩

/-- A caller that sends has an id that no request carries yet. -/
theorem Named.unspoken (h : s.Named) (hc : s.callers i = some c) (hp : c.phase = .sending)
    {id : String} (hid : c.id = some id) : id ∉ s.spoken := by
  intro hmem
  rcases h.sent id hmem with rfl | ⟨j, d, hd, hdid, hsent⟩
  · have hassigned := h.assigned i c _ hc hid
    rw [h.issued.names_eq] at hassigned
    obtain ⟨k, -, hk⟩ := List.mem_map.mp hassigned
    exact requestId_ne_connectId _ hk
  · cases h.distinct j i d c id hd hc hdid hid
    cases hd.symm.trans hc
    rw [hp] at hsent
    cases hsent

theorem Owes.owed_id_inj (h : s.Owes) (hn : s.Named) {r r' : Request} (hr : r ∈ s.owed)
    (hr' : r' ∈ s.owed) (hid : r.id = r'.id) : r.caller = r'.caller := by
  obtain ⟨c, hc, hcid, -⟩ := h.owner r hr
  obtain ⟨c', hc', hcid', -⟩ := h.owner r' hr'
  exact hn.distinct _ _ c c' r.id hc hc' hcid (hid ▸ hcid')

/-- The step is one of the session's task: it answers or drops some of what the session owes, and
the callers do nothing. -/
structure Settles (s s' : SessionRun) (gone : List Request) (answer : Request → Option Reply) :
    Prop where
  callers : s'.callers = (s.settle gone answer).callers
  inFlight : s'.inFlight = s.inFlight
  holders : s'.holders = s.holders
  nextRequestId : s'.nextRequestId = s.nextRequestId
  assigned : s'.assigned = s.assigned
  owed : s.owed = ↑gone + s'.owed
  spoken : s'.spoken ≤ s.spoken
  cancellations : ∀ id ∈ s'.cancellations, id ∈ s.cancellations
  accounted : ∀ r ∈ s'.owed, r.id ∈ s.cancellations ∨ r.id ∈ s.overtaken →
    r.id ∈ s'.cancellations ∨ r.id ∈ s'.overtaken
  dropped : ∀ r ∈ gone, answer r = none → s'.phase = .ended ∨ r.id ∈ s.cancellations
  ended : s.phase = .ended → s'.phase = .ended
  announced : s'.phase = .announced → s'.pending = [] ∧ ∃ cause, s'.closed = some cause
  closed : s'.phase = .ended → s'.owed = 0 ∧ ∃ cause, s'.closed = some cause

theorem Settles.mem_gone (hd : s.Settles s' gone answer) {r : Request} (hr : r ∈ gone) :
    r ∈ s.owed := by
  rw [hd.owed]
  exact Multiset.mem_add.mpr (Or.inl hr)

theorem Settles.mem_owed (hd : s.Settles s' gone answer) {r : Request} (hr : r ∈ s'.owed) :
    r ∈ s.owed := by
  rw [hd.owed]
  exact Multiset.mem_add.mpr (Or.inr hr)

theorem Settles.evolves (hd : s.Settles s' gone answer) (h : s.Owes) : s.Evolves s' := by
  refine evolves_settle hd.callers fun r hr c hc => ?_
  obtain ⟨d, hd, -, -, -, hacc⟩ := h.owner r (hd.mem_gone hr)
  cases hd.symm.trans hc
  exact hacc.sent

theorem Owes.settle (h : s.Owes) (hn : s.Named) (hd : s.Settles s' gone answer) : s'.Owes := by
  have hsingle := h.single
  rw [hd.owed, Multiset.map_add, Multiset.nodup_add] at hsingle
  refine ⟨hsingle.2.1, fun r hr => ?_, fun i c' deadline hc' hp hr => ?_,
    fun i c' deadline hc' hp hr => ?_, fun id hid => ?_, hd.announced, hd.closed⟩
  · obtain ⟨c, hc, hid, hmethod, hreply, hacc⟩ := h.owner r (hd.mem_owed hr)
    have hapart : ∀ r' ∈ gone, r'.caller ≠ r.caller := fun r' hr' he =>
      Multiset.disjoint_left.mp hsingle.2.2 (Multiset.mem_map.mpr ⟨r', hr', he⟩)
        (Multiset.mem_map_of_mem _ hr)
    exact ⟨c, by rw [hd.callers, settle_of_ne hapart, hc], hid, hmethod, hreply,
      hacc.mono (hd.accounted r hr)⟩
  · rw [hd.callers] at hc'
    rcases settle_cases hc' with ⟨hc, hapart⟩ | ⟨r, hr', c, -, -, rfl⟩
    · obtain ⟨r, hr, hi⟩ := h.waiting i c' deadline hc hp hr
      rw [hd.owed] at hr
      rcases Multiset.mem_add.mp hr with hr | hr
      · exact absurd hi (hapart r hr)
      · exact ⟨r, hr, hi⟩
    · cases hanswer : answer r <;> simp [hanswer, Caller.answered] at hr
  · rw [hd.callers] at hc'
    rcases settle_cases hc' with ⟨hc, -⟩ | ⟨r, hr', c, rfl, hc, rfl⟩
    · exact hd.ended (h.shut i c' deadline hc hp hr)
    · cases hanswer : answer r with
      | some reply => simp [hanswer, Caller.answered] at hr
      | none =>
        rcases hd.dropped r hr' hanswer with hphase | hmem
        · exact hphase
        -- Its caller handed in a cancellation and has returned.
        · obtain ⟨j, d, hd', hdid, hdone⟩ := h.cancelled r.id hmem
          obtain ⟨c₁, hc₁, hid, -⟩ := h.owner r (hd.mem_gone hr')
          cases hc₁.symm.trans hc
          cases hn.distinct j r.caller d c r.id hd' hc hdid hid
          cases hd'.symm.trans hc
          simp [hanswer, Caller.answered, hdone] at hp
  · obtain ⟨j, c, hc, hcid, hdone⟩ := h.cancelled id (hd.cancellations id hid)
    obtain ⟨c', hc', he⟩ := (hd.evolves h).old j c hc
    exact ⟨j, c', hc', he.id.trans hcid, he.done hdone⟩

/-- The step is one of a caller: the session's task stands where it stood. -/
structure Untouched (s s' : SessionRun) : Prop where
  commands : s'.commands = s.commands
  phase : s'.phase = s.phase
  pending : s'.pending = s.pending
  closed : s'.closed = s.closed
  wire : s'.wire = s.wire
  overtaken : s'.overtaken = s.overtaken

theorem Untouched.owed (hu : s.Untouched s') : s'.owed = s.owed := by
  rw [SessionRun.owed, hu.commands, hu.phase, hu.pending]
  rfl

theorem Untouched.spoken (hu : s.Untouched s') : s'.spoken = s.spoken := by
  rw [SessionRun.spoken, hu.wire, hu.commands]
  rfl

/-- A caller moves on, and the session owes it what it owed before. -/
theorem Owes.update (h : s.Owes) (hu : s.Untouched s')
    (hs : s'.callers = Function.update s.callers i (some c'))
    (howner : ∀ r ∈ s.owed, r.caller = i → c'.id = some r.id ∧ c'.method = r.method ∧
      c'.reply = .waiting ∧ s'.Accounted c' r.id)
    (hwaits : ∀ deadline, c'.phase = .waitingReply deadline →
      (c'.reply = .waiting → ∃ r ∈ s.owed, r.caller = i) ∧ (c'.reply = .closed → s.phase = .ended))
    (hdone : ∀ c, s.callers i = some c → c.phase = .done → c'.id = c.id ∧ c'.phase = .done)
    (hcancel : ∀ id ∈ s'.cancellations,
      id ∈ s.cancellations ∨ c'.id = some id ∧ c'.phase = .done)
    (hkept : ∀ id ∈ s.cancellations, id ∈ s'.cancellations) : s'.Owes := by
  have hself : s'.callers i = some c' := by rw [hs, Function.update_self]
  have hother : ∀ j, j ≠ i → s'.callers j = s.callers j := fun j hj => by
    rw [hs, Function.update_of_ne hj]
  refine ⟨by rw [hu.owed]; exact h.single, fun r hr => ?_, fun j d deadline hd hp hr => ?_,
    fun j d deadline hd hp hr => ?_, fun id hid => ?_, ?_, ?_⟩
  · rw [hu.owed] at hr
    by_cases hi : r.caller = i
    · exact ⟨c', hi ▸ hself, howner r hr hi⟩
    · obtain ⟨c, hc, hid, hmethod, hreply, hacc⟩ := h.owner r hr
      refine ⟨c, (hother _ hi).trans hc, hid, hmethod, hreply, hacc.mono ?_⟩
      rw [hu.overtaken]
      exact Or.imp_left (hkept r.id)
  · rw [hu.owed]
    by_cases hj : j = i
    · subst hj
      cases hself.symm.trans hd
      exact (hwaits deadline hp).1 hr
    · exact h.waiting j d deadline ((hother j hj).symm.trans hd) hp hr
  · rw [hu.phase]
    by_cases hj : j = i
    · subst hj
      cases hself.symm.trans hd
      exact (hwaits deadline hp).2 hr
    · exact h.shut j d deadline ((hother j hj).symm.trans hd) hp hr
  · rcases hcancel id hid with hold | ⟨hcid, hp⟩
    · obtain ⟨j, d, hd, hdid, hp⟩ := h.cancelled id hold
      by_cases hj : j = i
      · subst hj
        obtain ⟨hsame, hp'⟩ := hdone d hd hp
        exact ⟨j, c', hself, hsame.trans hdid, hp'⟩
      · exact ⟨j, d, (hother j hj).trans hd, hdid, hp⟩
    · exact ⟨i, c', hself, hcid, hp⟩
  · rw [hu.phase, hu.pending, hu.closed]
    exact h.announced
  · rw [hu.phase, hu.owed, hu.closed]
    exact h.ended

/-- The permits stay balanced when the caller that moves on keeps, takes or returns its own. -/
theorem Permitted.update (h : s.Permitted n)
    (hs : s'.callers = Function.update s.callers i (some c'))
    (hp : s'.inFlight + s'.holders.card = s.inFlight + s.holders.card)
    (hh : ∀ j, j ∈ s'.holders ↔ if j = i then c'.phase.holdsPermit = true else j ∈ s.holders) :
    s'.Permitted n where
  permits := hp.trans h.permits
  holders j := by
    rw [hh j, hs]
    split
    · next hj =>
      subst hj
      simp
    · next hj => rw [Function.update_of_ne hj, h.holders j]

theorem Permitted.settle (h : s.Permitted n) (hd : s.Settles s' gone answer) :
    s'.Permitted n where
  permits := by
    rw [hd.inFlight, hd.holders]
    exact h.permits
  holders j := by
    have hphase : ∀ d : Caller, ∀ answer, (d.answered answer).phase = d.phase := by
      rintro d (_ | _) <;> rfl
    rw [hd.holders, h.holders j, hd.callers]
    simp only [SessionRun.settle]
    split
    · simp [hphase]
    · rfl

end SessionRun

end OpenclawNode.Legacy
