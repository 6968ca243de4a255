import OpenclawNode.Legacy.SessionInvariant

/-! The callers: each of their steps keeps what holds of the ids, the permits and what is owed. -/
namespace OpenclawNode.Legacy

open Json (Value)
open Node (Nanos)

/-- What holds of every reachable session. -/
structure SessionRun.Sound (n : Nat) (s : SessionRun) : Prop where
  named : s.Named
  owes : s.Owes
  permitted : s.Permitted n

variable {n i : Nat} {requestTimeout : Nanos} {s s' : SessionRun} {c c' : Caller}

namespace SessionRun

/-- A call begins, or is refused before it asks for a permit. -/
theorem Sound.call (h : s.Sound n) (hc : s.callers i = none) (hid : c'.id = none)
    (hs : c'.Sound) (hp : c'.phase = .waitingPermit ∨ c'.phase = .done) :
    (s.setCaller i c').Sound n := by
  have hunowed : ∀ r ∈ s.owed, r.caller ≠ i := by
    rintro r hr rfl
    obtain ⟨c, hc', -⟩ := h.owes.owner r hr
    cases hc.symm.trans hc'
  have hfree : i ∉ s.holders := by
    rw [h.permitted.holders, hc]
    simp
  refine ⟨h.named.evolve (evolves_new hc hid hs rfl) rfl rfl le_rfl,
    h.owes.update ⟨rfl, rfl, rfl, rfl, rfl, rfl⟩ rfl (fun r hr hi => absurd hi (hunowed r hr))
      (fun deadline hw => ?_) (fun c hc' => ?_) (fun _ => Or.inl) (fun _ hid => hid),
    h.permitted.update rfl rfl fun j => ?_⟩
  · rcases hp with hp | hp <;> cases hp.symm.trans hw
  · cases hc.symm.trans hc'
  · split
    · next hj =>
      subst hj
      rcases hp with hp | hp <;> simpa [hp, CallerPhase.holdsPermit] using hfree
    · rfl

/-- A caller that has not sent its request is owed nothing. -/
theorem Owes.unowed (h : s.Owes) (hc : s.callers i = some c) (hp : c.phase.unsent = true) :
    ∀ r ∈ s.owed, r.caller ≠ i := by
  rintro r hr rfl
  obtain ⟨d, hd, -, -, -, hacc⟩ := h.owner r hr
  cases hd.symm.trans hc
  have hsent := hacc.sent
  rw [hp] at hsent
  cases hsent

theorem acquire_self : (s.acquire i c).callers i =
    some { c with id := some (requestId s.nextRequestId), phase := .sending } := by
  simp [acquire, setCaller]

theorem acquire_ne {j : Nat} (hj : j ≠ i) : (s.acquire i c).callers j = s.callers j := by
  simp [acquire, setCaller, hj]

/-- The new id is one that no caller has. -/
theorem Named.acquire (h : s.Named) (hc : s.callers i = some c) (hp : c.phase = .waitingPermit)
    (hroom : s.assigned.length + 1 < 2 ^ 64) : (s.acquire i c).Named where
  issued := h.issued.issue
  callers j d hd := by
    by_cases hj : j = i
    · subst hj
      cases acquire_self.symm.trans hd
      have hsound := h.callers j c hc
      refine ⟨fun hw => ?_, fun _ => hsound.unsent (by rw [hp]; rfl), hsound.single, fun _ => ?_⟩
      · cases hw
      · exact hsound.quiet (by rw [hp]; decide)
    · exact h.callers j d ((acquire_ne hj).symm.trans hd)
  assigned j d id hd hid := by
    refine List.mem_append.mpr ?_
    by_cases hj : j = i
    · subst hj
      cases acquire_self.symm.trans hd
      cases hid
      exact Or.inr (List.mem_singleton.mpr rfl)
    · exact Or.inl (h.assigned j d id ((acquire_ne hj).symm.trans hd) hid)
  distinct j k d e id hd he hdid heid := by
    have hne : ∀ l f, l ≠ i → (s.acquire i c).callers l = some f →
        f.id ≠ some (requestId s.nextRequestId) := by
      intro l f hl hf hfid
      exact h.issued.fresh requestId_injective hroom
        (h.assigned l f _ ((acquire_ne hl).symm.trans hf) hfid)
    by_cases hj : j = i <;> by_cases hk : k = i
    · exact hj.trans hk.symm
    · subst hj
      cases acquire_self.symm.trans hd
      cases hdid
      exact absurd heid (hne k e hk he)
    · subst hk
      cases acquire_self.symm.trans he
      cases heid
      exact absurd hdid (hne j d hj hd)
    · exact h.distinct j k d e id ((acquire_ne hj).symm.trans hd) ((acquire_ne hk).symm.trans he)
        hdid heid
  spoken := h.spoken
  sent id hmem := by
    refine (h.sent id hmem).imp_right ?_
    rintro ⟨j, d, hd, hdid, hsent⟩
    have hj : j ≠ i := by
      rintro rfl
      cases hd.symm.trans hc
      cases ((h.callers j c hc).unassigned hp).symm.trans hdid
    exact ⟨j, d, (acquire_ne hj).trans hd, hdid, hsent⟩

theorem Owes.acquire (h : s.Owes) (hc : s.callers i = some c) (hp : c.phase = .waitingPermit) :
    (s.acquire i c).Owes := by
  have hunowed := h.unowed hc (by rw [hp]; rfl)
  refine h.update ⟨rfl, rfl, rfl, rfl, rfl, rfl⟩ rfl (fun r hr hi => absurd hi (hunowed r hr))
    (fun deadline hw => ?_) (fun d hd hdone => ?_) (fun _ => Or.inl) fun _ hid => hid
  · cases hw
  · cases hd.symm.trans hc
    cases hp.symm.trans hdone

theorem Permitted.acquire (h : s.Permitted n) (hc : s.callers i = some c)
    (hp : c.phase = .waitingPermit) (hfree : 0 < s.inFlight) : (s.acquire i c).Permitted n := by
  have hnot : i ∉ s.holders := by
    rw [h.holders, hc]
    simp [hp, CallerPhase.holdsPermit]
  refine h.update rfl ?_ fun j => ?_
  · change s.inFlight - 1 + (insert i s.holders).card = _
    rw [Finset.card_insert_of_notMem hnot]
    omega
  · change j ∈ insert i s.holders ↔ _
    rw [Finset.mem_insert]
    split
    · next hj => simp [hj, CallerPhase.holdsPermit]
    · next hj => simp [hj]

/-- A caller goes on or leaves, and the session task takes no part. -/
theorem Sound.move (h : s.Sound n) (hc : s.callers i = some c) (he : c.Evolves c')
    (hreply : c'.reply = c.reply) (hw : ∀ deadline, c'.phase ≠ .waitingReply deadline)
    {permits : Nat} {holders : Finset Nat} {cancellations : List String}
    (hp : permits + holders.card = s.inFlight + s.holders.card)
    (hh : ∀ j, j ∈ holders ↔ if j = i then c'.phase.holdsPermit = true else j ∈ s.holders)
    (hcancel : ∀ id ∈ cancellations, id ∈ s.cancellations ∨ c'.id = some id ∧ c'.phase = .done)
    (hkept : ∀ id ∈ s.cancellations, id ∈ cancellations)
    (haccounted : ∀ r ∈ s.owed, c.id = some r.id → c.reply = .waiting → s.Accounted c r.id →
      Accounted { s with cancellations := cancellations } c' r.id) :
    ({ s.setCaller i c' with
      inFlight := permits, holders := holders, cancellations := cancellations }).Sound n := by
  refine ⟨h.named.evolve (evolves_update hc he rfl) rfl rfl le_rfl,
    h.owes.update ⟨rfl, rfl, rfl, rfl, rfl, rfl⟩ rfl ?_ (fun deadline hw' => absurd hw' (hw deadline))
      ?_ hcancel hkept, h.permitted.update rfl hp hh⟩
  · rintro r hr rfl
    obtain ⟨d, hd, hid, hmethod, hwaiting, hacc⟩ := h.owes.owner r hr
    cases hd.symm.trans hc
    exact ⟨he.id.trans hid, he.method.trans hmethod, hreply.trans hwaiting,
      haccounted r hr hid hwaiting hacc⟩
  · intro d hd hdone
    cases hd.symm.trans hc
    exact ⟨he.id, he.done hdone⟩

/-- A caller goes on and keeps the permit it may have. -/
theorem Sound.proceed (h : s.Sound n) (hc : s.callers i = some c) (he : c.Evolves c')
    (hreply : c'.reply = c.reply) (hw : ∀ deadline, c'.phase ≠ .waitingReply deadline)
    (hp : c'.phase.holdsPermit = c.phase.holdsPermit)
    (haccounted : ∀ r ∈ s.owed, c.id = some r.id → c.reply = .waiting → s.Accounted c r.id →
      s.Accounted c' r.id) : (s.setCaller i c').Sound n := by
  refine h.move hc he hreply hw rfl (fun j => ?_) (fun _ => Or.inl) (fun _ hid => hid) haccounted
  split
  · next hj =>
    subst hj
    simp [h.permitted.holders, hc, hp]
  · rfl

/-- A caller that holds a permit returns or is dropped. -/
theorem Sound.release (h : s.Sound n) (hc : s.callers i = some c) (he : c.Evolves c')
    (hreply : c'.reply = c.reply) (hp : c.phase.holdsPermit = true) (hd : c'.phase = .done)
    {cancellations : List String}
    (hcancel : ∀ id ∈ cancellations, id ∈ s.cancellations ∨ c'.id = some id)
    (hkept : ∀ id ∈ s.cancellations, id ∈ cancellations)
    (haccounted : ∀ r ∈ s.owed, c.id = some r.id → c.reply = .waiting → s.Accounted c r.id →
      Accounted { s with cancellations := cancellations } c' r.id) :
    ({ s.release i c' with cancellations := cancellations }).Sound n := by
  have hmem : i ∈ s.holders := (h.permitted.holders i).mpr ⟨c, hc, hp⟩
  refine h.move hc he hreply (fun _ hw => ?_) ?_ (fun j => ?_)
    (fun id hid => (hcancel id hid).imp_right fun hid => ⟨hid, hd⟩) hkept haccounted
  · cases hd.symm.trans hw
  · have hcard := Finset.card_erase_add_one hmem
    change s.inFlight + 1 + (s.holders.erase i).card = _
    omega
  · change j ∈ s.holders.erase i ↔ _
    rw [Finset.mem_erase]
    split
    · next hj => simp [hj, hd, CallerPhase.holdsPermit]
    · next hj => simp [hj]

theorem enqueue_self {id : String} : (s.enqueue requestTimeout i c id).callers i =
    some { c with phase := .waitingReply (s.now + requestTimeout) } := by
  simp [enqueue, setCaller]

theorem enqueue_ne {id : String} {j : Nat} (hj : j ≠ i) :
    (s.enqueue requestTimeout i c id).callers j = s.callers j := by
  simp [enqueue, setCaller, hj]

theorem owed_enqueue (id : String) :
    (s.enqueue requestTimeout i c id).owed = ⟨id, c.method, c.params, i⟩ ::ₘ s.owed := by
  simp only [owed, enqueue, setCaller, queuedRequests_append, queuedRequests_request,
    queuedRequests_nil, ← Multiset.coe_add, Multiset.coe_singleton, ← Multiset.singleton_add]
  abel

theorem spoken_enqueue (id : String) :
    (s.enqueue requestTimeout i c id).spoken = id ::ₘ s.spoken := by
  simp only [spoken, enqueue, setCaller, queuedRequests_append, queuedRequests_request,
    queuedRequests_nil, List.map_append, List.map_cons, List.map_nil, ← Multiset.coe_add,
    Multiset.coe_singleton, ← Multiset.singleton_add]
  abel

/-- The request joins the channel under an id that was not sent yet. -/
theorem Named.enqueue (h : s.Named) (hc : s.callers i = some c) (hp : c.phase = .sending)
    {id : String} (hid : c.id = some id) : (s.enqueue requestTimeout i c id).Named := by
  have he : c.Evolves { c with phase := .waitingReply (s.now + requestTimeout) } := by
    refine ⟨rfl, rfl, fun hsound => Caller.sound_of_sent rfl hsound.single fun _ => ?_,
      fun _ => rfl, fun hdone => ?_⟩
    · exact hsound.quiet (by rw [hp]; decide)
    · cases hp.symm.trans hdone
  have hnamed : (s.setCaller i { c with phase := .waitingReply (s.now + requestTimeout) }).Named :=
    h.evolve (evolves_update hc he rfl) rfl rfl le_rfl
  refine ⟨hnamed.issued, hnamed.callers, hnamed.assigned, hnamed.distinct, ?_, fun id' hmem => ?_⟩
  · rw [spoken_enqueue]
    exact Multiset.nodup_cons.mpr ⟨h.unspoken hc hp hid, h.spoken⟩
  · rw [spoken_enqueue, Multiset.mem_cons] at hmem
    rcases hmem with rfl | hmem
    · exact Or.inr ⟨i, _, enqueue_self, hid, rfl⟩
    · exact hnamed.sent id' hmem

/-- The session owes its caller an answer from now on. -/
theorem Owes.enqueue (h : s.Owes) (hc : s.callers i = some c) (hp : c.phase = .sending)
    (hwaiting : c.reply = .waiting) {id : String} (hid : c.id = some id)
    (hopen : s.phase ≠ .ended) : (s.enqueue requestTimeout i c id).Owes where
  single := by
    rw [owed_enqueue, Multiset.map_cons, Multiset.nodup_cons]
    refine ⟨fun hmem => ?_, h.single⟩
    obtain ⟨r, hr, hi⟩ := Multiset.mem_map.mp hmem
    exact h.unowed hc (by rw [hp]; rfl) r hr hi
  owner r hr := by
    rw [owed_enqueue, Multiset.mem_cons] at hr
    rcases hr with rfl | hr
    · exact ⟨_, enqueue_self, hid, rfl, hwaiting, trivial⟩
    · obtain ⟨d, hd, hdid, hmethod, hreply, hacc⟩ := h.owner r hr
      have hother := h.unowed hc (by rw [hp]; rfl) r hr
      exact ⟨d, (enqueue_ne hother).trans hd, hdid, hmethod, hreply, hacc.mono fun hw => hw⟩
  waiting j d deadline hd hw hr := by
    rw [owed_enqueue]
    by_cases hj : j = i
    · exact ⟨_, Multiset.mem_cons_self _ _, hj.symm⟩
    · obtain ⟨r, hr, hi⟩ := h.waiting j d deadline ((enqueue_ne hj).symm.trans hd) hw hr
      exact ⟨r, Multiset.mem_cons_of_mem hr, hi⟩
  shut j d deadline hd hw hr := by
    by_cases hj : j = i
    · subst hj
      cases enqueue_self.symm.trans hd
      cases hwaiting.symm.trans hr
    · exact h.shut j d deadline ((enqueue_ne hj).symm.trans hd) hw hr
  cancelled id' hmem := by
    obtain ⟨j, d, hd, hdid, hdone⟩ := h.cancelled id' hmem
    have hj : j ≠ i := by
      rintro rfl
      cases hd.symm.trans hc
      cases hp.symm.trans hdone
    exact ⟨j, d, (enqueue_ne hj).trans hd, hdid, hdone⟩
  announced := h.announced
  ended hended := absurd hended hopen

theorem Permitted.enqueue (h : s.Permitted n) (hc : s.callers i = some c)
    (hp : c.phase = .sending) (id : String) :
    (s.enqueue requestTimeout i c id).Permitted n := by
  refine h.update rfl rfl fun j => ?_
  split
  · next hj =>
    subst hj
    have hmem : j ∈ s.holders := (h.holders j).mpr ⟨c, hc, by rw [hp]; rfl⟩
    simpa [SessionRun.enqueue, CallerPhase.holdsPermit] using hmem
  · rfl

end SessionRun

open SessionRun

theorem Caller.fresh_sound {method : String} {params : Value} :
    (Caller.fresh method params).Sound :=
  ⟨fun _ => rfl, fun _ => rfl, Nat.zero_le 1, fun _ => rfl⟩

theorem Caller.refused_sound {method : String} {params : Value} {reply : Reply} :
    ((Caller.fresh method params).finish reply).Sound :=
  Caller.sound_of_sent rfl (Nat.le_refl 1) fun hp => absurd rfl hp

theorem Caller.evolves_drop (c : Caller) : c.Evolves { c with phase := .done } :=
  ⟨rfl, rfl, fun h => Caller.sound_of_sent rfl h.single fun hp => absurd rfl hp, fun _ => rfl,
    fun _ => rfl⟩

theorem Caller.evolves_finish (hp : c.phase ≠ .done) (reply : Reply) :
    c.Evolves (c.finish reply) := by
  refine ⟨rfl, rfl, fun h => Caller.sound_of_sent rfl ?_ fun hp => absurd rfl hp, fun _ => rfl,
    fun _ => rfl⟩
  simp [Caller.finish, h.quiet hp]

theorem Caller.evolves_cancelling {deadline : Nanos} (hp : c.phase = .waitingReply deadline) :
    c.Evolves { c with phase := .cancelling } := by
  refine ⟨rfl, rfl, fun h => Caller.sound_of_sent rfl h.single fun _ => h.quiet ?_, fun _ => rfl, ?_⟩
  · rw [hp]
    nofun
  · intro hdone
    cases hp.symm.trans hdone

theorem sound_caller (hs : SessionStep n requestTimeout s (.caller i) s')
    (hroom : s'.assigned.length < 2 ^ 64) (h : s.Sound n) : s'.Sound n := by
  cases hs with
  | call method params hc _ => exact h.call hc rfl Caller.fresh_sound (Or.inl rfl)
  | callEmpty params hc => exact h.call hc rfl Caller.refused_sound (Or.inr rfl)
  | acquire hc hp hfree =>
    have hroom' : s.assigned.length + 1 < 2 ^ 64 := by simpa [SessionRun.acquire] using hroom
    exact ⟨h.named.acquire hc hp hroom', h.owes.acquire hc hp, h.permitted.acquire hc hp hfree⟩
  | @permitDropped i c hc hp =>
    refine h.proceed hc c.evolves_drop rfl nofun (by rw [hp]; rfl) fun _ _ _ _ hacc => ?_
    exact absurd hacc.sent (by rw [hp]; decide)
  | enqueue hc hp hid _ hopen =>
    have hwaiting := (h.named.callers _ _ hc).unsent (by rw [hp]; rfl)
    exact ⟨h.named.enqueue hc hp hid, h.owes.enqueue hc hp hwaiting hid hopen,
      h.permitted.enqueue hc hp _⟩
  | @sendDropped i c hc hp =>
    refine h.release hc c.evolves_drop rfl (by rw [hp]; rfl) rfl (fun _ => Or.inl)
      (fun _ hid => hid) fun _ _ _ _ hacc => ?_
    exact absurd hacc.sent (by rw [hp]; decide)
  | sendClosed hc hp _ =>
    refine h.release hc (Caller.evolves_finish (by rw [hp]; decide) _) rfl (by rw [hp]; rfl) rfl
      (fun _ => Or.inl) (fun _ hid => hid) fun _ _ _ _ hacc => ?_
    exact absurd hacc.sent (by rw [hp]; decide)
  | receive hc hp hr =>
    refine h.release hc (Caller.evolves_finish (by rw [hp]; nofun) _) rfl (by rw [hp]; rfl) rfl
      (fun _ => Or.inl) (fun _ hid => hid) fun _ _ _ hwaiting _ => ?_
    cases hr.symm.trans hwaiting
  | receiveClosed hc hp hr =>
    refine h.release hc (Caller.evolves_finish (by rw [hp]; nofun) _) rfl (by rw [hp]; rfl) rfl
      (fun _ => Or.inl) (fun _ hid => hid) fun _ _ _ hwaiting _ => ?_
    cases hr.symm.trans hwaiting
  | elapse hc hp _ _ =>
    exact h.proceed hc (Caller.evolves_cancelling hp) rfl nofun (by rw [hp]; rfl)
      fun _ _ _ _ _ => trivial
  | @cancel i c id hc hp hid =>
    refine h.release hc (Caller.evolves_finish (by rw [hp]; decide) _) rfl (by rw [hp]; rfl) rfl
      (fun id' hmem => ?_) (fun id' hmem => ?_) fun r hr hrid _ _ => ?_
    · split at hmem
      · exact Or.inl hmem
      · refine (List.mem_append.mp hmem).imp_right fun hlast => ?_
        rw [List.mem_singleton.mp hlast]
        exact hid
    · split
      · exact hmem
      · exact List.mem_append.mpr (Or.inl hmem)
    · have hquiet := (h.named.callers i c hc).quiet (by rw [hp]; decide)
      have hopen : s.phase.isEnded = false := by
        cases hphase : s.phase with
        | ended =>
          rw [(h.owes.ended hphase).1] at hr
          exact absurd hr (Multiset.notMem_zero r)
        | _ => rfl
      cases hid.symm.trans hrid
      refine Or.inr ⟨by simp [Caller.finish, hquiet], Or.inl ?_⟩
      simp [hopen]
  | @replyDropped i c deadline hc hp =>
    have hquiet := (h.named.callers i c hc).quiet (by rw [hp]; nofun)
    exact h.release hc c.evolves_drop rfl (by rw [hp]; rfl) rfl (fun _ => Or.inl)
      (fun _ hid => hid) fun _ _ _ _ _ => Or.inl hquiet

end OpenclawNode.Legacy
