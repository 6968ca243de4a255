import OpenclawNode.Base.Numbering
import OpenclawNode.Gateway.RequestAccounting

/-! Every request keeps its own id and permit, and every caller gets its own answer at most once. -/
namespace OpenclawNode.Gateway

open Node (Nanos)
open Numbering (Issued)
open Permits (Accounted)
open SessionRun (Drops)

variable {n maxInFlight : Nat} {writeTimeout : Nanos} {s s' : SessionRun} {a : SessionActor}
  {gone : Multiset Request}

theorem requestId_ne_connectId (k : UInt64) : requestId k ≠ connectId :=
  Numbering.repr_ne "rust-gateway-" "connect-1" (c := 'c') (by decide) rfl k

theorem requestId_injective : Function.Injective requestId :=
  Numbering.repr_injective "rust-gateway-"

/-- What holds of the permits and ids of a session. -/
structure SessionRun.Counts (n : Nat) (s : SessionRun) : Prop where
  permits : Accounted Request.permit n s.permits s.held
  issued : Issued requestId s.nextRequestId s.assigned
  held_nodup : (s.held.map Request.id).Nodup
  held_assigned : ∀ r ∈ s.held, r.id ∈ s.assigned
  spoken_nodup : s.spoken.Nodup
  spoken_assigned : ∀ id ∈ s.spoken, id = connectId ∨ id ∈ s.assigned

theorem SessionRun.Counts.drops (h : s.Counts n) (hd : s.Drops s' gone) : s'.Counts n where
  permits := h.permits.release hd.held hd.permits
  issued := by
    rw [hd.nextRequestId, hd.assigned]
    exact h.issued
  held_nodup := by
    have hnodup := h.held_nodup
    rw [hd.held, Multiset.map_add] at hnodup
    exact (Multiset.nodup_add.mp hnodup).2.1
  held_assigned := by
    intro r hr
    rw [hd.assigned]
    apply h.held_assigned r
    rw [hd.held]
    exact Multiset.mem_add.mpr (Or.inr hr)
  spoken_nodup := Multiset.nodup_of_le hd.spoken h.spoken_nodup
  spoken_assigned := by
    intro id hid
    rw [hd.assigned]
    exact h.spoken_assigned id (Multiset.mem_of_le hd.spoken hid)

section

open SessionRun

variable {i permit : Nat} {c : Caller} {rest : List Nat}

/-- The request that a caller builds with its permit. -/
def issued (s : SessionRun) (i : Nat) (c : Caller) (permit : Nat) : Request :=
  ⟨requestId s.nextRequestId, c.method, c.params, c.deadline, c.guarded, i, permit⟩

theorem held_acquire : (s.acquire i c permit rest).held = issued s i c permit ::ₘ s.held := by
  simp only [held, acquire, setCaller, ← Multiset.coe_add, issued, Multiset.coe_singleton,
    ← Multiset.singleton_add]
  abel

theorem spoken_acquire :
    (s.acquire i c permit rest).spoken = requestId s.nextRequestId ::ₘ s.spoken := by
  simp only [spoken, unsent, acquire, setCaller, ← Multiset.coe_add, Multiset.map_add,
    Multiset.coe_singleton, Multiset.map_singleton, ← Multiset.singleton_add]
  abel

theorem SessionRun.Counts.fresh (h : s.Counts n) (hroom : s.assigned.length + 1 < 2 ^ 64) :
    requestId s.nextRequestId ∉ s.assigned := h.issued.fresh requestId_injective hroom

theorem SessionRun.Counts.acquire (h : s.Counts n) (hf : s.permits = permit :: rest)
    (hroom : s.assigned.length + 1 < 2 ^ 64) : (s.acquire i c permit rest).Counts n where
  permits := by
    rw [held_acquire]
    exact h.permits.acquire hf
  issued := h.issued.issue
  held_nodup := by
    rw [held_acquire, Multiset.map_cons, Multiset.nodup_cons]
    refine ⟨?_, h.held_nodup⟩
    intro hmem
    obtain ⟨r, hr, hid⟩ := Multiset.mem_map.mp hmem
    have hmem := h.held_assigned r hr
    rw [hid] at hmem
    exact h.fresh hroom hmem
  held_assigned := by
    intro r hr
    rw [held_acquire, Multiset.mem_cons] at hr
    apply List.mem_append.mpr
    rcases hr with rfl | hr
    · exact Or.inr (List.mem_singleton.mpr rfl)
    · exact Or.inl (h.held_assigned r hr)
  spoken_nodup := by
    rw [spoken_acquire, Multiset.nodup_cons]
    refine ⟨?_, h.spoken_nodup⟩
    intro hmem
    rcases h.spoken_assigned _ hmem with hconnect | hassigned
    · exact requestId_ne_connectId _ hconnect
    · exact h.fresh hroom hassigned
  spoken_assigned := by
    intro id hid
    rw [spoken_acquire, Multiset.mem_cons] at hid
    rcases hid with rfl | hid
    · exact Or.inr (List.mem_append.mpr (Or.inr (List.mem_singleton.mpr rfl)))
    · rcases h.spoken_assigned id hid with hconnect | hassigned
      · exact Or.inl hconnect
      · exact Or.inr (List.mem_append.mpr (Or.inl hassigned))

end

/-- The results that only a response of the Gateway can bring. -/
def FromGateway : Reply → Prop
  | .ok _ => True
  | .error (.gateway _ _ _ _ _ _) => True
  | .error _ => False

/-- The result is that of the first response under the caller's id that was read while its request
was pending. -/
def Caller.Explained (arrivals : List Arrival) (c : Caller) (result : Reply) : Prop :=
  ∃ id arrival, c.id = some id ∧
    arrivals.find? (fun a => a.id = id && a.pending) = some arrival ∧
    result = arrival.result c.method

/-- The phases in which nothing more is returned. -/
def CallerPhase.over : CallerPhase → Bool
  | .waitingPermit => false
  | .sending => false
  | .waitingReply => false
  | .cancelling => true
  | .cancelled => true
  | .done => true

/-- What one step does to a caller that it does not give a permit. -/
structure Caller.Evolves (arrivals : List Arrival) (c c' : Caller) : Prop where
  method : c'.method = c.method
  id : c'.id = c.id
  waiting : c'.phase = .waitingPermit → c.phase = .waitingPermit
  observed : (c'.observed = c.observed ∧ (c.phase.over = true → c'.phase.over = true)) ∨
    ∃ result, c'.observed = c.observed ++ [result] ∧ c.phase.over = false ∧
      c'.phase.over = true ∧ (¬ FromGateway result ∨ c.reply = .value result)
  reply : ∀ result, c'.reply = .value result →
    c.reply = .value result ∨ ¬ FromGateway result ∨ c.Explained arrivals result

/-- What holds of a caller alone. -/
structure Caller.Sound (arrivals : List Arrival) (c : Caller) : Prop where
  unassigned : c.phase = .waitingPermit → c.id = none
  single : c.observed.length ≤ 1
  quiet : c.phase.over = false → c.observed = []
  explained : ∀ result, result ∈ c.observed ∨ c.reply = .value result → FromGateway result →
    c.Explained arrivals result

variable {c c' : Caller} {arrivals arrivals' : List Arrival}

theorem Caller.Evolves.refl (c : Caller) : c.Evolves arrivals c :=
  ⟨rfl, rfl, fun h => h, Or.inl ⟨rfl, fun h => h⟩, fun _ h => Or.inl h⟩

theorem Caller.Explained.append {result : Reply} (h : c.Explained arrivals result)
    (more : List Arrival) : c.Explained (arrivals ++ more) result := by
  obtain ⟨id, arrival, hid, hfind, he⟩ := h
  refine ⟨id, arrival, hid, ?_, he⟩
  rw [List.find?_append, hfind]
  rfl

theorem Caller.Sound.evolve {more : List Arrival} (h : c.Sound arrivals)
    (he : c.Evolves (arrivals ++ more) c') : c'.Sound (arrivals ++ more) where
  unassigned := fun hp => he.id.trans (h.unassigned (he.waiting hp))
  single := by
    rcases he.observed with ⟨ho, -⟩ | ⟨result, ho, hover, -, -⟩
    · rw [ho]
      exact h.single
    · rw [ho, h.quiet hover]
      exact Nat.le_refl 1
  quiet := by
    intro hover
    rcases he.observed with ⟨ho, hkeep⟩ | ⟨result, -, -, hdone, -⟩
    · rw [ho]
      apply h.quiet
      cases hp : c.phase.over with
      | false => rfl
      | true => exact absurd (hkeep hp) (by rw [hover]; decide)
    · rw [hover] at hdone
      cases hdone
  explained := by
    intro result hr hg
    have hold : result ∈ c.observed ∨ c.reply = .value result →
        c'.Explained (arrivals ++ more) result := by
      intro ho
      obtain ⟨id, arrival, hid, hfind, hresult⟩ := (h.explained result ho hg).append more
      exact ⟨id, arrival, he.id.trans hid, hfind, by rw [he.method]; exact hresult⟩
    rcases hr with hmem | hreply
    · rcases he.observed with ⟨ho, -⟩ | ⟨last, ho, -, -, hlast⟩
      · exact hold (Or.inl (ho ▸ hmem))
      · rw [ho, List.mem_append, List.mem_singleton] at hmem
        rcases hmem with hmem | rfl
        · exact hold (Or.inl hmem)
        · exact hold (Or.inr (hlast.resolve_left fun hn => hn hg))
    · rcases he.reply result hreply with hkept | hplain | ⟨id, arrival, hid, hfind, hresult⟩
      · exact hold (Or.inr hkept)
      · exact absurd hg hplain
      · exact ⟨id, arrival, he.id.trans hid, hfind, by rw [he.method]; exact hresult⟩

/-- How a step that issues no request changes the callers: each evolves, and new ones have no id
and nothing from the Gateway. -/
structure SessionRun.CallersEvolve (arrivals : List Arrival) (s s' : SessionRun) : Prop where
  old : ∀ i c, s.callers i = some c → ∃ c', s'.callers i = some c' ∧ c.Evolves arrivals c'
  new : ∀ i c', s.callers i = none → s'.callers i = some c' →
    c'.id = none ∧ c'.Sound arrivals

section

open SessionRun

variable {i : Nat}

theorem CallersEvolve.of_eq (h : s'.callers = s.callers) : s.CallersEvolve arrivals s' where
  old i c hc := ⟨c, by rw [h, hc], .refl c⟩
  new i c' hn hc := by
    rw [h, hn] at hc
    cases hc

theorem evolve_setCaller (hc : s.callers i = some c) (he : c.Evolves arrivals c') :
    s.CallersEvolve arrivals (s.setCaller i c') where
  old j d hd := by
    by_cases hji : j = i
    · subst hji
      cases hc.symm.trans hd
      exact ⟨c', by simp [setCaller], he⟩
    · exact ⟨d, by simp [setCaller, hji, hd], .refl d⟩
  new j d hn hd := by
    by_cases hji : j = i
    · subst hji
      cases hc.symm.trans hn
    · simp [setCaller, hji, hn] at hd

theorem evolve_new (hc : s.callers i = none) (hid : c'.id = none) (hs : c'.Sound arrivals) :
    s.CallersEvolve arrivals (s.setCaller i c') where
  old j d hd := by
    have hji : j ≠ i := by
      rintro rfl
      cases hc.symm.trans hd
    exact ⟨d, by simp [setCaller, hji, hd], .refl d⟩
  new j d hn hd := by
    by_cases hji : j = i
    · subst hji
      simp only [setCaller, Function.update_self, Option.some.injEq] at hd
      subst hd
      exact ⟨hid, hs⟩
    · simp [setCaller, hji, hn] at hd

/-- The answers that dropped requests send are no responses of the Gateway. -/
def Plain (answer : Request → Option Reply) : Prop :=
  ∀ r result, answer r = some result → ¬ FromGateway result

theorem plain_none : Plain fun _ => none := by
  intro r result h
  cases h

theorem plain_error {error : Request → ClientError}
    (h : ∀ r, ¬ FromGateway (.error (error r))) : Plain fun r => some (.error (error r)) := by
  intro r result hr
  cases hr
  exact h r

theorem evolve_answered {answer : Option Reply}
    (h : ∀ result, answer = some result → ¬ FromGateway result ∨ c.Explained arrivals result) :
    c.Evolves arrivals (c.answered answer) := by
  cases answer with
  | none =>
    refine ⟨rfl, rfl, fun h => h, Or.inl ⟨rfl, fun h => h⟩, ?_⟩
    intro result hr
    cases hr
  | some reply =>
    refine ⟨rfl, rfl, fun h => h, Or.inl ⟨rfl, fun h => h⟩, ?_⟩
    intro result hr
    cases hr
    exact Or.inr (h reply rfl)

/-- Dropping requests answers their callers. -/
theorem evolve_settle {rs : List Request} {answer : Request → Option Reply}
    (hcallers : s'.callers = (s.settle rs answer).callers)
    (h : ∀ r ∈ rs, ∀ c, s.callers r.caller = some c → ∀ result, answer r = some result →
      ¬ FromGateway result ∨ c.Explained arrivals result) :
    s.CallersEvolve arrivals s' where
  old i c hc := by
    rw [hcallers]
    simp only [settle]
    cases hf : rs.find? (·.caller = i) with
    | none => exact ⟨c, hc, .refl c⟩
    | some r =>
      have hi : r.caller = i := by simpa using List.find?_some hf
      refine ⟨c.answered (answer r), by rw [hc]; rfl, evolve_answered ?_⟩
      exact h r (List.mem_of_find?_eq_some hf) c (hi ▸ hc)
  new i c' hn hc := by
    rw [hcallers] at hc
    simp only [settle, hn, Option.map_none] at hc
    split at hc <;> cases hc

theorem evolve_settle_plain {rs : List Request} {answer : Request → Option Reply}
    (hcallers : s'.callers = (s.settle rs answer).callers) (h : Plain answer) :
    s.CallersEvolve arrivals s' :=
  evolve_settle hcallers fun r _ _ _ result hr => Or.inl (h r result hr)

/-- A caller that still sends drops its request and returns or is dropped. -/
theorem evolve_sending {r : Request} {sending : List Request} (hc : s.callers i = some c)
    (hr : r.caller = i) (he : c.Evolves arrivals c') :
    s.CallersEvolve arrivals
      (({ s with sending := sending }.settle [r] fun _ => none).setCaller i c') where
  old j d hd := by
    by_cases hji : j = i
    · subst hji
      cases hc.symm.trans hd
      exact ⟨c', by simp [setCaller], he⟩
    · refine ⟨d, ?_, .refl d⟩
      have hrj : ¬ r.caller = j := fun h => hji (h.symm.trans hr)
      simp [setCaller, settle, hji, hrj, hd]
  new j d hn hd := by
    by_cases hji : j = i
    · subst hji
      cases hc.symm.trans hn
    · have hrj : ¬ r.caller = j := fun h => hji (h.symm.trans hr)
      simp [setCaller, settle, hji, hrj, hn] at hd

/-- A caller returns a result of its own. -/
theorem evolve_finish {result : Reply} {phase : CallerPhase} (hp : c.phase.over = false)
    (hphase : phase.over = true) (hr : ¬ FromGateway result ∨ c.reply = .value result) :
    c.Evolves arrivals { c.finish result with phase := phase } where
  method := rfl
  id := rfl
  waiting h := by
    change phase = .waitingPermit at h
    rw [h] at hphase
    cases hphase
  observed := Or.inr ⟨result, rfl, hp, hphase, hr⟩
  reply _ h := Or.inl h

/-- A caller moves on without a result. -/
theorem evolve_phase {phase : CallerPhase} {cancelled : Bool}
    (hw : phase = .waitingPermit → c.phase = .waitingPermit)
    (ho : c.phase.over = true → phase.over = true) :
    c.Evolves arrivals { c with phase := phase, cancelled := cancelled } :=
  ⟨rfl, rfl, hw, Or.inl ⟨rfl, ho⟩, fun _ h => Or.inl h⟩

theorem closedError_plain : ¬ FromGateway (.error s.closedError) := by
  unfold closedError
  cases s.closed with
  | none => exact fun h => h
  | some cause => cases cause <;> exact fun h => h

theorem pendingRequestError_plain (cause : SessionCloseCause) (method : String) :
    ¬ FromGateway (.error (cause.pendingRequestError method)) := by
  cases cause <;> exact fun h => h

theorem fresh_sound {method : String} {params : Json.Value} {deadline : Nanos} {guarded : Bool} :
    (Caller.fresh method params deadline guarded).Sound arrivals where
  unassigned _ := rfl
  single := Nat.zero_le 1
  quiet _ := rfl
  explained result h _ := by
    rcases h with h | h <;> cases h

theorem refused_sound {method : String} {params : Json.Value} {deadline : Nanos} {guarded : Bool}
    {error : ClientError} (h : ¬ FromGateway (.error error)) :
    ((Caller.fresh method params deadline guarded).finish (.error error)).Sound arrivals where
  unassigned _ := rfl
  single := Nat.le_refl 1
  quiet hp := by cases hp
  explained result hr hg := by
    rcases hr with hr | hr
    · cases List.mem_singleton.mp hr
      exact absurd hg h
    · cases hr

end

/-- What holds of a session and its callers in every reachable state. -/
structure SessionRun.Correlates (n : Nat) (s : SessionRun) : Prop where
  counts : s.Counts n
  owner : ∀ r ∈ s.held, ∃ c, s.callers r.caller = some c ∧ c.id = some r.id ∧ c.method = r.method
  ids : ∀ i c id, s.callers i = some c → c.id = some id → id ∈ s.assigned
  distinct : ∀ i j c d id, s.callers i = some c → s.callers j = some d → c.id = some id →
    d.id = some id → i = j
  unanswered : ∀ r ∈ s.held, ∀ a ∈ s.arrivals, a.pending = true → a.id ≠ r.id
  answered : ∀ a ∈ s.arrivals, a.pending = true → a.id ∈ s.assigned
  callers : ∀ i c, s.callers i = some c → c.Sound s.arrivals

/-- What a step that issues no request does to the callers and the responses read. -/
structure SessionRun.Answers (s s' : SessionRun) : Prop where
  callers : s.CallersEvolve s'.arrivals s'
  arrivals : ∃ more, s'.arrivals = s.arrivals ++ more ∧
    ∀ a ∈ more, a.pending = true → a.id ∈ s.assigned ∧ ∀ r ∈ s'.held, a.id ≠ r.id

theorem answers_of_arrivals (ha : s'.arrivals = s.arrivals)
    (h : s.CallersEvolve s'.arrivals s') : s.Answers s' :=
  ⟨h, [], by simpa using ha, by simp⟩

/-- A response reaches the request that is pending under its id and no other. -/
theorem answers_response (h : s.Correlates n) {id : String} {ok : Bool} {payload : Json.Value}
    {error : Option GatewayErrorShape} (hw : s.phase.writing = []) :
    s.Answers (s.onResponse id ok payload error) := by
  have hdrops : s.Drops (s.onResponse id ok payload error) ↑(s.pending.filter (·.id = id)) :=
    drops_pending (fun r => by simp) hw rfl rfl
  have hmem : ∀ r ∈ s.pending.filter (·.id = id), r ∈ s.held ∧ r.id = id := by
    intro r hr
    refine ⟨?_, by simpa using (List.mem_filter.mp hr).2⟩
    rw [hdrops.held]
    exact Multiset.mem_add.mpr (Or.inl hr)
  refine ⟨evolve_settle rfl ?_, [_], rfl, ?_⟩
  · intro r hr c hc result hresult
    obtain ⟨hheld, hid⟩ := hmem r hr
    obtain ⟨owner, howner, hownid, hmethod⟩ := h.owner r hheld
    cases hc.symm.trans howner
    have hpending : s.pending.any (·.id = id) = true :=
      List.any_eq_true.mpr ⟨r, (List.mem_filter.mp hr).1, by simpa using hid⟩
    have hearlier : s.arrivals.find? (fun a => a.id = r.id && a.pending) = none := by
      rw [List.find?_eq_none]
      intro a ha hfound
      obtain ⟨hsame, hp⟩ : a.id = r.id ∧ a.pending = true := by simpa using hfound
      exact h.unanswered r hheld a ha hp hsame
    cases hresult
    refine Or.inr ⟨r.id, ⟨id, ok, payload, error, s.pending.any (·.id = id)⟩, hownid, ?_, ?_⟩
    · change (s.arrivals ++ [_]).find? _ = _
      rw [List.find?_append, hearlier]
      simp [hid, hpending]
    · rw [hmethod]
      rfl
  · intro a ha hp
    rw [List.mem_singleton] at ha
    subst ha
    obtain ⟨answered, hanswered, hmatch⟩ := List.any_eq_true.mp hp
    obtain ⟨hheld, hid⟩ := hmem answered (List.mem_filter.mpr ⟨hanswered, hmatch⟩)
    refine ⟨hid ▸ h.counts.held_assigned answered hheld, ?_⟩
    intro r hr hsame
    have hnodup := h.counts.held_nodup
    rw [hdrops.held, Multiset.map_add] at hnodup
    have hdisjoint := (Multiset.nodup_add.mp hnodup).2.2
    have hanswered : r.id ∈ Multiset.map Request.id ↑(s.pending.filter (·.id = id)) :=
      Multiset.mem_map.mpr
        ⟨answered, List.mem_filter.mpr ⟨hanswered, hmatch⟩, hid.trans hsame⟩
    exact Multiset.disjoint_left.mp hdisjoint hanswered (Multiset.mem_map_of_mem _ hr)

theorem answers_step (h : s.Correlates n) (hs : SessionStep n writeTimeout s a s') :
    s.Answers s' ∨
    ∃ i c permit rest, s.callers i = some c ∧ c.phase = .waitingPermit ∧
      s.permits = permit :: rest ∧ s' = s.acquire i c permit rest := by
  cases hs with
  | acquire hc hp hf => exact Or.inr ⟨_, _, _, _, hc, hp, hf, rfl⟩
  | call method params deadline guarded hc _ =>
    exact Or.inl (answers_of_arrivals rfl (evolve_new hc rfl fresh_sound))
  | callEmpty params deadline guarded hc =>
    exact Or.inl (answers_of_arrivals rfl (evolve_new hc rfl (refused_sound fun h => h)))
  | permitTimeout hc hp _ =>
    exact Or.inl (answers_of_arrivals rfl (evolve_setCaller hc
      (evolve_finish (by rw [hp]; rfl) rfl (Or.inl fun h => h))))
  | permitDropped hc hp =>
    exact Or.inl (answers_of_arrivals rfl (evolve_setCaller hc
      (evolve_phase (fun h => by cases h) (fun _ => rfl))))
  | @enqueue i c r before after hc hp hsend hi _ _ =>
    have hmoved : s.CallersEvolve s.arrivals (s.setCaller i { c with phase := .waitingReply }) :=
      evolve_setCaller hc (evolve_phase (fun h => by cases h) (by rw [hp]; exact fun h => h))
    exact Or.inl (answers_of_arrivals rfl ⟨hmoved.old, hmoved.new⟩)
  | sendTimeout hc hp hsend hi _ =>
    exact Or.inl (answers_of_arrivals rfl (evolve_sending hc hi
      (evolve_finish (by rw [hp]; rfl) rfl (Or.inl fun h => h))))
  | sendDropped hc hp hsend hi =>
    exact Or.inl (answers_of_arrivals rfl (evolve_sending hc hi
      (evolve_phase (fun h => by cases h) (fun _ => rfl))))
  | sendClosed hc hp hsend hi _ =>
    exact Or.inl (answers_of_arrivals rfl (evolve_sending hc hi
      (evolve_finish (by rw [hp]; rfl) rfl (Or.inl closedError_plain))))
  | receive hc hp hr =>
    exact Or.inl (answers_of_arrivals rfl (evolve_setCaller hc
      (evolve_finish (by rw [hp]; rfl) rfl (Or.inr hr))))
  | receiveClosed hc hp hr =>
    exact Or.inl (answers_of_arrivals rfl (evolve_setCaller hc
      (evolve_finish (by rw [hp]; rfl) rfl (Or.inl closedError_plain))))
  | replyTimeout hc hp _ _ =>
    exact Or.inl (answers_of_arrivals rfl (evolve_setCaller hc
      (evolve_finish (by rw [hp]; rfl) rfl (Or.inl fun h => h))))
  | replyDropped hc hp =>
    exact Or.inl (answers_of_arrivals rfl (evolve_setCaller hc
      (evolve_phase (fun h => by cases h) (by rw [hp]; exact fun h => by cases h))))
  | setCancelled hc hp =>
    exact Or.inl (answers_of_arrivals rfl (evolve_setCaller hc
      (evolve_phase (fun h => by cases h) (fun _ => rfl))))
  | @offerCancel i c id hc hp _ _ _ =>
    have hmoved : s.CallersEvolve s.arrivals (s.setCaller i { c with phase := .done }) :=
      evolve_setCaller hc (evolve_phase (fun h => by cases h) (fun _ => rfl))
    exact Or.inl (answers_of_arrivals rfl ⟨hmoved.old, hmoved.new⟩)
  | loseCancel hc hp _ =>
    exact Or.inl (answers_of_arrivals rfl (evolve_setCaller hc
      (evolve_phase (fun h => by cases h) (fun _ => rfl))))
  | purge seen hp _ =>
    exact Or.inl (answers_of_arrivals rfl (evolve_settle_plain rfl plain_none))
  | closeByClient | announce _ _ | tick _ _ | start _ =>
    exact Or.inl (answers_of_arrivals rfl (CallersEvolve.of_eq rfl))
  | written hp => exact Or.inl (answers_of_arrivals rfl (evolve_settle_plain rfl plain_none))
  | expire hp _ =>
    exact Or.inl (answers_of_arrivals rfl
      (evolve_settle_plain rfl (plain_error fun _ h => h)))
  | @request r rest later hp hq hl =>
    unfold SessionRun.onRequest
    split
    · exact Or.inl (answers_of_arrivals rfl (evolve_settle_plain rfl plain_none))
    · split
      · exact Or.inl (answers_of_arrivals rfl
          (evolve_settle_plain rfl (plain_error fun _ h => h)))
      · exact Or.inl (answers_of_arrivals rfl (CallersEvolve.of_eq rfl))
  | cancelRequest hp hq =>
    exact Or.inl (answers_of_arrivals rfl (evolve_settle_plain rfl plain_none))
  | message message hp =>
    have hw : s.phase.writing = [] := by rw [hp]; rfl
    rcases message with _ | ⟨id, ok, payload, error⟩ | _ | (_ | _ | _) | _ | _ | _ | _
    case response => exact Or.inl (answers_response h hw)
    all_goals exact Or.inl (answers_of_arrivals rfl (CallersEvolve.of_eq rfl))
  | rejectByGuard reason hp _ =>
    exact Or.inl (answers_of_arrivals rfl
      (evolve_settle_plain rfl (plain_error fun _ h => h)))
  | @failWrite r expires wins failure hp _ =>
    cases failure with
    | timedOut =>
      refine Or.inl (answers_of_arrivals rfl (evolve_settle_plain rfl (plain_error ?_)))
      intro r
      split <;> exact fun h => h
    | transport error =>
      exact Or.inl (answers_of_arrivals rfl
        (evolve_settle_plain rfl (plain_error fun _ h => h)))
  | @failPending cause r rest hp hpending =>
    exact Or.inl (answers_of_arrivals rfl (evolve_settle_plain rfl
      (plain_error fun r => pendingRequestError_plain cause r.method)))
  | dropQueue hp =>
    exact Or.inl (answers_of_arrivals rfl (evolve_settle_plain rfl plain_none))

variable {i permit : Nat} {rest : List Nat}

theorem SessionRun.Correlates.drops (h : s.Correlates n) (hd : s.Drops s' gone)
    (ha : s.Answers s') : s'.Correlates n := by
  obtain ⟨hevolve, more, harrivals, hfresh⟩ := ha
  have hheld : ∀ r ∈ s'.held, r ∈ s.held := by
    intro r hr
    rw [hd.held]
    exact Multiset.mem_add.mpr (Or.inr hr)
  -- An id that a caller has now it had before.
  have hid : ∀ i c' id, s'.callers i = some c' → c'.id = some id →
      ∃ c, s.callers i = some c ∧ c.id = some id := by
    intro i c' id hc' hid
    cases hc : s.callers i with
    | none =>
      rw [(hevolve.new i c' hc hc').1] at hid
      cases hid
    | some c =>
      obtain ⟨d, hd, he⟩ := hevolve.old i c hc
      cases hd.symm.trans hc'
      exact ⟨c, rfl, he.id.symm.trans hid⟩
  refine ⟨h.counts.drops hd, ?_, ?_, ?_, ?_, ?_, ?_⟩
  · intro r hr
    obtain ⟨c, hc, hcid, hmethod⟩ := h.owner r (hheld r hr)
    obtain ⟨c', hc', he⟩ := hevolve.old r.caller c hc
    exact ⟨c', hc', he.id.trans hcid, he.method.trans hmethod⟩
  · intro i c' id hc' hcid
    obtain ⟨c, hc, hcid⟩ := hid i c' id hc' hcid
    rw [hd.assigned]
    exact h.ids i c id hc hcid
  · intro i j c' d' id hc' hd' hcid hdid
    obtain ⟨c, hc, hcid⟩ := hid i c' id hc' hcid
    obtain ⟨d, hd, hdid⟩ := hid j d' id hd' hdid
    exact h.distinct i j c d id hc hd hcid hdid
  · intro r hr a ha hp
    rw [harrivals, List.mem_append] at ha
    rcases ha with ha | ha
    · exact h.unanswered r (hheld r hr) a ha hp
    · exact (hfresh a ha hp).2 r hr
  · intro a ha hp
    rw [hd.assigned]
    rw [harrivals, List.mem_append] at ha
    rcases ha with ha | ha
    · exact h.answered a ha hp
    · exact (hfresh a ha hp).1
  · intro i c' hc'
    cases hc : s.callers i with
    | none => exact (hevolve.new i c' hc hc').2
    | some c =>
      obtain ⟨d, hd, he⟩ := hevolve.old i c hc
      cases hd.symm.trans hc'
      rw [harrivals] at he ⊢
      exact (h.callers i c hc).evolve he

theorem SessionRun.Correlates.acquire (h : s.Correlates n) (hc : s.callers i = some c)
    (hp : c.phase = .waitingPermit) (hf : s.permits = permit :: rest)
    (hroom : s.assigned.length + 1 < 2 ^ 64) :
    (s.acquire i c permit rest).Correlates n := by
  have hnone : c.id = none := (h.callers i c hc).unassigned hp
  have hfresh := h.counts.fresh hroom
  have hself : (s.acquire i c permit rest).callers i =
      some { c with id := some (requestId s.nextRequestId), phase := .sending } := by
    simp [SessionRun.acquire, SessionRun.setCaller]
  have hother : ∀ j, j ≠ i → (s.acquire i c permit rest).callers j = s.callers j := by
    intro j hj
    simp [SessionRun.acquire, SessionRun.setCaller, hj]
  refine ⟨h.counts.acquire hf hroom, ?_, ?_, ?_, ?_, ?_, ?_⟩
  · intro r hr
    rw [held_acquire, Multiset.mem_cons] at hr
    rcases hr with rfl | hr
    · exact ⟨_, hself, rfl, rfl⟩
    · obtain ⟨d, hd, hdid, hmethod⟩ := h.owner r hr
      have hji : r.caller ≠ i := by
        intro he
        rw [he, hc] at hd
        cases hd
        rw [hnone] at hdid
        cases hdid
      exact ⟨d, (hother _ hji).trans hd, hdid, hmethod⟩
  · intro j d id hd hdid
    apply List.mem_append.mpr
    by_cases hji : j = i
    · subst hji
      cases hself.symm.trans hd
      cases hdid
      exact Or.inr (List.mem_singleton.mpr rfl)
    · rw [hother j hji] at hd
      exact Or.inl (h.ids j d id hd hdid)
  · intro j k d e id hd he hdid heid
    by_cases hji : j = i <;> by_cases hki : k = i
    · exact hji.trans hki.symm
    · subst hji
      cases hself.symm.trans hd
      cases hdid
      rw [hother k hki] at he
      exact absurd (h.ids k e _ he heid) hfresh
    · subst hki
      cases hself.symm.trans he
      cases heid
      rw [hother j hji] at hd
      exact absurd (h.ids j d _ hd hdid) hfresh
    · rw [hother j hji] at hd
      rw [hother k hki] at he
      exact h.distinct j k d e id hd he hdid heid
  · intro r hr a ha hpending
    rw [held_acquire, Multiset.mem_cons] at hr
    rcases hr with rfl | hr
    · intro hsame
      apply hfresh
      have hassigned := h.answered a ha hpending
      rwa [hsame] at hassigned
    · exact h.unanswered r hr a ha hpending
  · intro a ha hpending
    exact List.mem_append.mpr (Or.inl (h.answered a ha hpending))
  · intro j d hd
    by_cases hji : j = i
    · subst hji
      cases hself.symm.trans hd
      have hsound := h.callers j c hc
      refine ⟨fun hw => ?_, hsound.single, fun _ => hsound.quiet (by rw [hp]; rfl), ?_⟩
      · cases hw
      intro result hr hg
      obtain ⟨id, arrival, hid, -⟩ := hsound.explained result hr hg
      rw [hnone] at hid
      cases hid
    · rw [hother j hji] at hd
      exact h.callers j d hd

theorem assigned_step (hs : SessionStep n writeTimeout s a s') :
    s.assigned.length ≤ s'.assigned.length := by
  rcases step_drops hs with ⟨gone, hd⟩ | ⟨i, c, permit, rest, -, -, -, rfl⟩
  · rw [hd.assigned]
  · simp [SessionRun.acquire]

theorem correlates_step (hs : SessionStep n writeTimeout s a s')
    (hroom : s'.assigned.length < 2 ^ 64) (h : s.Correlates n) : s'.Correlates n := by
  rcases answers_step h hs with ha | ⟨i, c, permit, rest, hc, hp, hf, rfl⟩
  · rcases step_drops hs with ⟨gone, hd⟩ | ⟨i, c, permit, rest, hc, hp, hf, rfl⟩
    · exact h.drops hd ha
    · exact h.acquire hc hp hf (by simpa [SessionRun.acquire] using hroom)
  · exact h.acquire hc hp hf (by simpa [SessionRun.acquire] using hroom)

theorem correlates_initial (hi : (sessionSystem maxInFlight writeTimeout).Initial s) :
    s.Correlates (max maxInFlight 1) := by
  obtain ⟨now, params, rfl⟩ := hi
  have hnone : ∀ r : Request, r ∉ (0 : Multiset Request) := Multiset.notMem_zero
  refine ⟨⟨Accounted.initial, .initial, Multiset.nodup_zero, fun r hr => absurd hr (hnone r),
    Multiset.nodup_singleton connectId, fun id hid => Or.inl (Multiset.mem_singleton.mp hid)⟩,
    fun r hr => absurd hr (hnone r), ?_, ?_, ?_, ?_, ?_⟩
  · intro i c id hc
    cases hc
  · intro i j c d id hc
    cases hc
  · intro r hr
    exact absurd hr (hnone r)
  · intro a ha
    cases ha
  · intro i c hc
    cases hc

theorem correlates_reachable (hs : (sessionSystem maxInFlight writeTimeout).Reachable s)
    (hfew : s.assigned.length < 2 ^ 64) : s.Correlates (max maxInFlight 1) := by
  refine hs.invariant
    (P := fun s => s.assigned.length < 2 ^ 64 → s.Correlates (max maxInFlight 1)) ?_ ?_ hfew
  · intro s hi _
    exact correlates_initial hi
  · intro s a s' hs ih hroom
    exact correlates_step hs hroom (ih (Nat.lt_of_le_of_lt (assigned_step hs) hroom))

/-- The requests that are waiting to be queued, queued, being written or pending. -/
def SessionRun.inFlight (s : SessionRun) : List Request :=
  s.sending ++ queuedRequests s.queue ++ s.phase.writing ++ s.pending

theorem coe_inFlight : (s.inFlight : Multiset Request) = s.held := by
  simp [SessionRun.inFlight, SessionRun.held]

/-- Correlation and accounting: every request in flight holds one permit of its own and no permit
is lost, ids on the wire are distinct, a caller is answered at most once and from the Gateway only
by the first response under its own id while its request was pending, and a refused request is
never written. -/
theorem request_correlation (maxInFlight : Nat) (writeTimeout : Nanos) (s : SessionRun)
    (hs : (sessionSystem maxInFlight writeTimeout).Reachable s)
    (hfew : s.assigned.length < 2 ^ 64) :
    s.inFlight.length ≤ max maxInFlight 1 ∧
    s.permits.length + s.inFlight.length = max maxInFlight 1 ∧
    (s.permits ++ s.inFlight.map Request.permit).Perm (List.range (max maxInFlight 1)) ∧
    (s.wire.map WireRequest.id).Nodup ∧
    (∀ i c, s.callers i = some c → c.observed.length ≤ 1) ∧
    (∀ i c result, s.callers i = some c → result ∈ c.observed → FromGateway result →
      ∃ id arrival, c.id = some id ∧
        s.arrivals.find? (fun a => a.id = id && a.pending) = some arrival ∧
        result = arrival.result c.method) ∧
    (∀ i j c d id, s.callers i = some c → s.callers j = some d → c.id = some id →
      d.id = some id → i = j) ∧
    ∀ refusal ∈ s.refused, refusal.1 ∉ s.wire.map WireRequest.id := by
  have h := correlates_reachable hs hfew
  have hcard := h.counts.permits.card
  rw [← coe_inFlight, Multiset.coe_card] at hcard
  have hpermits := h.counts.permits
  rw [← coe_inFlight, Accounted, Multiset.map_coe, Multiset.coe_add] at hpermits
  have hspoken := h.counts.spoken_nodup
  rw [SessionRun.spoken, add_assoc] at hspoken
  obtain ⟨hwire, -, hapart⟩ := Multiset.nodup_add.mp hspoken
  refine ⟨by omega, hcard, Multiset.coe_eq_coe.mp hpermits, hwire,
    fun i c hc => (h.callers i c hc).single, ?_, h.distinct, ?_⟩
  · intro i c result hc hr hg
    exact (h.callers i c hc).explained result (Or.inl hr) hg
  · intro refusal hrefusal hwritten
    refine Multiset.disjoint_left.mp hapart hwritten ?_
    exact Multiset.mem_add.mpr (Or.inl (List.mem_map_of_mem hrefusal))

/-- One caller that asks for the node list and is answered. -/
theorem answered_caller : ∃ s c, (sessionSystem 1 5).Reachable s ∧ s.callers 0 = some c ∧
    c.observed = [.ok .null] ∧ s.wire.map WireRequest.id = [connectId, "rust-gateway-1"] ∧
    s.permits = [0] ∧ (s.wire.map WireRequest.id).Nodup := by
  have hpurge : ∀ t : SessionRun, ∀ r ∈ t.pending, (fun _ => false) r = true →
      t.isCancelled r = true := by
    intro t r _ h
    cases h
  have h₀ : (sessionSystem 1 5).Reachable _ := .initial ⟨0, .null, rfl⟩
  have h₁ := h₀.step (.call (i := 0) "node.list" .null 30 false rfl (by decide))
  have h₂ := h₁.step (.acquire (i := 0) rfl rfl rfl)
  have h₃ := h₂.step (.enqueue (i := 0) rfl rfl (List.nil_append [_]).symm rfl (by decide)
    (by intro h; cases h))
  have h₄ := h₃.step (.purge (fun _ => false) rfl (hpurge _))
  have h₅ := h₄.step (.request 0 rfl rfl (Nat.le_refl 0))
  have h₆ := h₅.step (.start rfl)
  have h₇ := h₆.step (.written rfl)
  have h₈ := h₇.step (.purge (fun _ => false) rfl (hpurge _))
  have h₉ := h₈.step (.message (.response "rust-gateway-1" true .null none) rfl)
  have h₁₀ := h₉.step (.receive (i := 0) rfl rfl rfl)
  obtain ⟨-, -, -, hwire, -⟩ := request_correlation 1 5 _ h₁₀ (by decide)
  exact ⟨_, _, h₁₀, rfl, rfl, rfl, rfl, hwire⟩

end OpenclawNode.Gateway
