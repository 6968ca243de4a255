import OpenclawNode.Base.Transition
import Mathlib.Data.List.Basic

/-! The scopes a runtime keeps for its sessions, by the addresses of their markers. -/
namespace OpenclawNode.Node

open Transition (System)

/-- What a runtime keeps for a session: a weak reference to its marker, its invocations and its
overload permits. A marker is named by the connection that allocated it, the other two by the order
in which they were made. -/
structure SessionScope where
  marker : Nat
  active : Nat
  overloadPermits : Nat
  deriving DecidableEq, Repr

/-- The session handles and one runtime's scopes. There is one live handle for every strong
reference to a marker, and the weak references are those of the table and of the scopes that were
returned and are still held. -/
structure ScopeRun where
  addresses : List Nat
  clones : List Nat
  table : List (Nat × SessionScope)
  held : List SessionScope
  made : Nat
  deriving DecidableEq, Repr

namespace ScopeRun

def strongCount (w : ScopeRun) (marker : Nat) : Nat := w.clones.count marker

def weakCount (w : ScopeRun) (marker : Nat) : Nat :=
  (w.table.map fun entry => entry.2.marker).count marker +
    (w.held.map SessionScope.marker).count marker

/-- The allocation of a marker is kept while it has a reference, strong or weak. -/
def Kept (w : ScopeRun) (marker : Nat) : Prop := 0 < w.strongCount marker + w.weakCount marker

/-- The part of `session_scope` that sweeps the table. -/
def retain (w : ScopeRun) : ScopeRun :=
  { w with table := w.table.filter fun entry => 0 < w.strongCount entry.2.marker }

def addressOf (w : ScopeRun) (marker : Nat) : Nat := w.addresses.getD marker 0

/-- The scope of a session, which a clone of the connection asks for. -/
def sessionScope (w : ScopeRun) (connection : Nat) : SessionScope × ScopeRun :=
  let key := w.addressOf connection
  let w := w.retain
  match w.table.find? (·.1 = key) with
  | some (_, scope) => (scope, { w with held := scope :: w.held })
  | none =>
    let scope := ⟨connection, w.made, w.made⟩
    (scope, { w with
      table := (key, scope) :: w.table
      held := scope :: w.held
      made := w.made + 1 })

end ScopeRun

inductive ScopeAction
  | create (address : Nat)
  | clone (connection : Nat)
  | drop (connection : Nat)
  | lookup (connection : Nat)
  | release (scope : SessionScope)

/-- Sessions come and go and are looked up in any order. A new marker may get the address of one
whose allocation is not kept any more. -/
inductive ScopeStep : ScopeRun → ScopeAction → ScopeRun → Prop
  | create {w} (address : Nat) :
      (∀ marker, w.Kept marker → w.addresses[marker]? ≠ some address) →
      ScopeStep w (.create address)
        { w with
          addresses := w.addresses ++ [address]
          clones := w.addresses.length :: w.clones }
  | clone {w connection} : connection ∈ w.clones →
      ScopeStep w (.clone connection) { w with clones := connection :: w.clones }
  | drop {w connection} : connection ∈ w.clones →
      ScopeStep w (.drop connection) { w with clones := w.clones.erase connection }
  | lookup {w connection} : connection ∈ w.clones →
      ScopeStep w (.lookup connection) (w.sessionScope connection).2
  | release {w scope} : scope ∈ w.held →
      ScopeStep w (.release scope) { w with held := w.held.erase scope }

def scopeSystem : System ScopeRun ScopeAction where
  Initial w := w = ⟨[], [], [], [], 0⟩
  Step := ScopeStep

variable {w w' : ScopeRun} {a : ScopeAction} {c connection marker : Nat} {scope : SessionScope}

theorem ScopeRun.kept_iff : w.Kept marker ↔
    marker ∈ w.clones ∨ (∃ entry ∈ w.table, entry.2.marker = marker) ∨
      ∃ scope ∈ w.held, scope.marker = marker := by
  rw [Kept, strongCount, weakCount, Nat.add_pos_iff_pos_or_pos, Nat.add_pos_iff_pos_or_pos,
    List.count_pos_iff, List.count_pos_iff, List.count_pos_iff, List.mem_map, List.mem_map]

/-- What holds of the table. The entry of a marker is at its address, the markers that are kept have
addresses of their own, and the scopes that have been made are told apart by their markers. -/
structure ScopeRun.Sound (w : ScopeRun) : Prop where
  allocated : ∀ marker, w.Kept marker → marker < w.addresses.length
  distinct : ∀ marker marker', w.Kept marker → w.Kept marker' →
    w.addressOf marker = w.addressOf marker' → marker = marker'
  key : ∀ entry ∈ w.table, entry.1 = w.addressOf entry.2.marker
  made : ∀ entry ∈ w.table, entry.2.active = entry.2.overloadPermits ∧ entry.2.active < w.made
  one : ∀ entry ∈ w.table, ∀ entry' ∈ w.table,
    entry.2.marker = entry'.2.marker ∨ entry.2.active = entry'.2.active → entry = entry'

namespace ScopeRun

theorem mem_retain {entry : Nat × SessionScope} :
    entry ∈ w.retain.table ↔ entry ∈ w.table ∧ entry.2.marker ∈ w.clones := by
  rw [retain, List.mem_filter, decide_eq_true_eq, strongCount, List.count_pos_iff]

/-- A lookup returns the scope at the session's address, or makes one where there is none. -/
theorem sessionScope_cases (w : ScopeRun) (c : Nat) :
    (∃ scope, (w.addressOf c, scope) ∈ w.retain.table ∧
      w.sessionScope c = (scope, { w.retain with held := scope :: w.held })) ∨
    ((∀ entry ∈ w.retain.table, entry.1 ≠ w.addressOf c) ∧
      w.sessionScope c = (⟨c, w.made, w.made⟩, { w.retain with
        table := (w.addressOf c, ⟨c, w.made, w.made⟩) :: w.retain.table
        held := ⟨c, w.made, w.made⟩ :: w.held
        made := w.made + 1 })) := by
  rw [sessionScope]
  cases h : w.retain.table.find? (·.1 = w.addressOf c) with
  | some entry =>
    obtain ⟨key, scope⟩ := entry
    have hkey : key = w.addressOf c := by simpa using List.find?_some h
    exact .inl ⟨scope, hkey ▸ List.mem_of_find?_eq_some h, rfl⟩
  | none =>
    exact .inr ⟨fun entry hentry he =>
      List.find?_eq_none.mp h entry hentry (decide_eq_true he), rfl⟩

theorem Kept.clone (h : c ∈ w.clones) : w.Kept c := kept_iff.mpr (.inl h)

theorem Kept.entry {entry : Nat × SessionScope} (h : entry ∈ w.table) : w.Kept entry.2.marker :=
  kept_iff.mpr (.inr (.inl ⟨entry, h, rfl⟩))

/-- The entry at a live session's address is the session's own. -/
theorem Sound.entry_of_key (h : w.Sound) (hc : c ∈ w.clones) {entry : Nat × SessionScope}
    (he : entry ∈ w.table) (hkey : entry.1 = w.addressOf c) : entry.2.marker = c :=
  h.distinct _ _ (.entry he) (.clone hc) ((h.key entry he).symm.trans hkey)

/-- Dropping references, strong or weak, and entries keeps the table sound. -/
theorem Sound.shrink (h : w.Sound) (haddresses : w'.addresses = w.addresses)
    (hmade : w'.made = w.made) (htable : ∀ entry ∈ w'.table, entry ∈ w.table)
    (hkept : ∀ marker, w'.Kept marker → w.Kept marker) : w'.Sound where
  allocated marker hm := by
    rw [haddresses]
    exact h.allocated marker (hkept marker hm)
  distinct marker marker' hm hm' he := by
    simp only [addressOf, haddresses] at he
    exact h.distinct marker marker' (hkept _ hm) (hkept _ hm') he
  key entry he := by
    simp only [addressOf, haddresses]
    exact h.key entry (htable entry he)
  made entry he := by
    rw [hmade]
    exact h.made entry (htable entry he)
  one entry he entry' he' := h.one entry (htable entry he) entry' (htable entry' he')

theorem addressOf_lt (h : marker < w.addresses.length) :
    w.addresses[marker]? = some (w.addressOf marker) := by
  rw [addressOf, List.getD_eq_getElem?_getD, List.getElem?_eq_getElem h, Option.getD_some]

/-- A new marker gets an address that no marker that is kept has. -/
theorem Sound.create (h : w.Sound) {address : Nat}
    (hfree : ∀ marker, w.Kept marker → w.addresses[marker]? ≠ some address) :
    ScopeRun.Sound { w with
      addresses := w.addresses ++ [address]
      clones := w.addresses.length :: w.clones } := by
  have hold : ∀ m, m < w.addresses.length →
      (w.addresses ++ [address]).getD m 0 = w.addressOf m := by
    intro m hm
    rw [addressOf, List.getD_eq_getElem?_getD, List.getElem?_append_left hm,
      List.getD_eq_getElem?_getD]
  have hnew : (w.addresses ++ [address]).getD w.addresses.length 0 = address := by
    rw [List.getD_eq_getElem?_getD, List.getElem?_concat_length, Option.getD_some]
  have hkept : ∀ m, Kept { w with
      addresses := w.addresses ++ [address]
      clones := w.addresses.length :: w.clones } m → m = w.addresses.length ∨ w.Kept m := by
    intro m hm
    rw [kept_iff] at hm ⊢
    obtain hm | hm := hm
    · obtain rfl | hm := List.mem_cons.mp hm
      · exact .inl rfl
      · exact .inr (.inl hm)
    · exact .inr (.inr hm)
  have hne : ∀ m, w.Kept m → w.addressOf m ≠ address := by
    intro m hm he
    exact hfree m hm (by rw [addressOf_lt (h.allocated m hm), he])
  refine ⟨fun m hm => ?_, fun m m' hm hm' he => ?_, fun entry he => ?_, h.made, h.one⟩
  · rw [List.length_append, List.length_singleton]
    obtain rfl | hm := hkept m hm
    · exact Nat.lt_succ_self _
    · exact Nat.lt_succ_of_lt (h.allocated m hm)
  · change (w.addresses ++ [address]).getD m 0 = (w.addresses ++ [address]).getD m' 0 at he
    obtain rfl | hm := hkept m hm
    · obtain rfl | hm' := hkept m' hm'
      · rfl
      · rw [hnew, hold m' (h.allocated m' hm')] at he
        exact absurd he.symm (hne m' hm')
    · obtain rfl | hm' := hkept m' hm'
      · rw [hnew, hold m (h.allocated m hm)] at he
        exact absurd he (hne m hm)
      · rw [hold m (h.allocated m hm), hold m' (h.allocated m' hm')] at he
        exact h.distinct m m' hm hm' he
  · change entry.1 = (w.addresses ++ [address]).getD entry.2.marker 0
    rw [hold _ (h.allocated _ (.entry he))]
    exact h.key entry he

theorem Sound.retain (h : w.Sound) : w.retain.Sound := by
  refine h.shrink rfl rfl (fun entry he => (mem_retain.mp he).1) fun marker hm => ?_
  rw [kept_iff] at hm ⊢
  obtain hm | ⟨entry, he, hm⟩ | hm := hm
  · exact .inl hm
  · exact .inr (.inl ⟨entry, (mem_retain.mp he).1, hm⟩)
  · exact .inr (.inr hm)

theorem Sound.lookup (h : w.Sound) (hc : c ∈ w.clones) : (w.sessionScope c).2.Sound := by
  obtain ⟨scope, hscope, hw⟩ | ⟨hnone, hw⟩ := w.sessionScope_cases c
  · rw [hw]
    refine h.retain.shrink rfl rfl (fun entry he => he) fun marker hm => ?_
    rw [kept_iff] at hm ⊢
    obtain hm | hm | ⟨other, ho, hm⟩ := hm
    · exact .inl hm
    · exact .inr (.inl hm)
    · obtain rfl | ho := List.mem_cons.mp ho
      · exact .inr (.inl ⟨_, hscope, hm⟩)
      · exact .inr (.inr ⟨other, ho, hm⟩)
  · rw [hw]
    have hr := h.retain
    have hkept : ∀ m, Kept { w.retain with
        table := (w.addressOf c, ⟨c, w.made, w.made⟩) :: w.retain.table
        held := ⟨c, w.made, w.made⟩ :: w.held
        made := w.made + 1 } m → w.retain.Kept m := by
      intro m hm
      rw [kept_iff] at hm ⊢
      obtain hm | ⟨entry, he, hm⟩ | ⟨other, ho, hm⟩ := hm
      · exact .inl hm
      · obtain rfl | he := List.mem_cons.mp he
        · exact .inl (hm ▸ hc)
        · exact .inr (.inl ⟨entry, he, hm⟩)
      · obtain rfl | ho := List.mem_cons.mp ho
        · exact .inl (hm ▸ hc)
        · exact .inr (.inr ⟨other, ho, hm⟩)
    -- An entry of the session's marker would be at its address, where there is none.
    have hfresh : ∀ entry ∈ w.retain.table,
        ¬ (entry.2.marker = c ∨ entry.2.active = w.made) := by
      intro entry he hsame
      obtain rfl | hsame := hsame
      · exact hnone entry he (hr.key entry he)
      · exact absurd (hr.made entry he).2 (by
          change ¬ entry.2.active < w.made
          omega)
    refine ⟨fun m hm => hr.allocated m (hkept m hm),
      fun m m' hm hm' he => hr.distinct m m' (hkept m hm) (hkept m' hm') he, ?_, ?_, ?_⟩
    · intro entry he
      obtain rfl | he := List.mem_cons.mp he
      · rfl
      · exact hr.key entry he
    · intro entry he
      obtain rfl | he := List.mem_cons.mp he
      · exact ⟨rfl, Nat.lt_succ_self _⟩
      · exact ⟨(hr.made entry he).1, Nat.lt_succ_of_lt (hr.made entry he).2⟩
    · intro entry he entry' he' hsame
      obtain rfl | he := List.mem_cons.mp he
      · obtain rfl | he' := List.mem_cons.mp he'
        · rfl
        · exact absurd (hsame.imp Eq.symm Eq.symm) (hfresh entry' he')
      · obtain rfl | he' := List.mem_cons.mp he'
        · exact absurd hsame (hfresh entry he)
        · exact hr.one entry he entry' he' hsame

theorem Sound.step (hs : ScopeStep w a w') (h : w.Sound) : w'.Sound := by
  cases hs with
  | create address hfree => exact h.create hfree
  | clone hc =>
    refine h.shrink rfl rfl (fun _ he => he) fun marker hm => ?_
    rw [kept_iff] at hm ⊢
    obtain hm | hm := hm
    · obtain rfl | hm := List.mem_cons.mp hm
      · exact .inl hc
      · exact .inl hm
    · exact .inr hm
  | drop hc =>
    refine h.shrink rfl rfl (fun _ he => he) fun marker hm => ?_
    rw [kept_iff] at hm ⊢
    exact hm.imp_left List.mem_of_mem_erase
  | lookup hc => exact h.lookup hc
  | release hscope =>
    refine h.shrink rfl rfl (fun _ he => he) fun marker hm => ?_
    rw [kept_iff] at hm ⊢
    obtain hm | hm | ⟨other, ho, hm⟩ := hm
    · exact .inl hm
    · exact .inr (.inl hm)
    · exact .inr (.inr ⟨other, List.mem_of_mem_erase ho, hm⟩)

theorem sound_of_reachable (h : scopeSystem.Reachable w) : w.Sound := by
  refine h.invariant (P := Sound) ?_ fun w a w' hs hw => hw.step hs
  rintro w rfl
  have hnone : ∀ marker, ¬ Kept ⟨[], [], [], [], 0⟩ marker := by
    intro marker hm
    simp [kept_iff] at hm
  exact ⟨fun m hm => absurd hm (hnone m), fun m _ hm => absurd hm (hnone m),
    fun _ he => absurd he List.not_mem_nil, fun _ he => absurd he List.not_mem_nil,
    fun _ he => absurd he List.not_mem_nil⟩

/-- A scope that a lookup returned for a session is in the table as long as the session lives, and
nothing else in the table is taken for it. -/
structure Remembers (w : ScopeRun) (c : Nat) (scope : SessionScope) : Prop where
  marker : scope.marker = c
  allocated : c < w.addresses.length
  made : scope.active = scope.overloadPermits ∧ scope.active < w.made
  entry : c ∈ w.clones → (w.addressOf c, scope) ∈ w.table
  only : ∀ entry ∈ w.table, entry.2.marker = c ∨ entry.2.active = scope.active → entry.2 = scope

theorem Sound.remembers (h : w.Sound) (hc : c ∈ w.clones) :
    (w.sessionScope c).2.Remembers c (w.sessionScope c).1 := by
  have hafter := h.lookup hc
  have hlt := h.allocated c (.clone hc)
  obtain ⟨scope, hscope, hw⟩ | ⟨_, hw⟩ := w.sessionScope_cases c
  · have hmarker := h.entry_of_key hc (mem_retain.mp hscope).1 rfl
    rw [hw] at hafter ⊢
    refine ⟨hmarker, hlt, hafter.made _ hscope, fun _ => hscope, fun entry he hsame => ?_⟩
    rw [← hmarker] at hsame
    exact congrArg Prod.snd (hafter.one entry he _ hscope hsame)
  · rw [hw] at hafter ⊢
    refine ⟨rfl, hlt, hafter.made _ List.mem_cons_self, fun _ => List.mem_cons_self,
      fun entry he hsame => ?_⟩
    exact congrArg Prod.snd (hafter.one entry he _ List.mem_cons_self hsame)

/-- A step that keeps the entries of live sessions and adds none keeps what is remembered. -/
theorem Remembers.shrink (h : w.Remembers c scope)
    (haddresses : ∃ more, w'.addresses = w.addresses ++ more) (hmade : w'.made = w.made)
    (htable : w'.table = w.table) (hclones : c ∈ w'.clones → c ∈ w.clones) :
    w'.Remembers c scope := by
  obtain ⟨more, haddresses⟩ := haddresses
  have haddress : w'.addressOf c = w.addressOf c := by
    rw [addressOf, haddresses, List.getD_eq_getElem?_getD, List.getElem?_append_left h.allocated,
      addressOf, List.getD_eq_getElem?_getD]
  refine ⟨h.marker, ?_, hmade ▸ h.made, fun hc => ?_, htable ▸ h.only⟩
  · rw [haddresses, List.length_append]
    exact Nat.lt_add_right _ h.allocated
  · rw [haddress, htable]
    exact h.entry (hclones hc)

theorem Remembers.step (hs : ScopeStep w a w') (h : w.Remembers c scope) :
    w'.Remembers c scope := by
  cases hs with
  | create address _ =>
    refine h.shrink ⟨[address], rfl⟩ rfl rfl fun hc => ?_
    obtain rfl | hc := List.mem_cons.mp hc
    · exact absurd h.allocated (Nat.lt_irrefl _)
    · exact hc
  | clone hclone =>
    refine h.shrink ⟨[], (List.append_nil _).symm⟩ rfl rfl fun hc => ?_
    obtain rfl | hc := List.mem_cons.mp hc
    · exact hclone
    · exact hc
  | drop _ =>
    exact h.shrink ⟨[], (List.append_nil _).symm⟩ rfl rfl List.mem_of_mem_erase
  | @lookup other hother =>
    obtain ⟨found, _, hw⟩ | ⟨hnone, hw⟩ := w.sessionScope_cases other
    · rw [hw]
      exact ⟨h.marker, h.allocated, h.made, fun hc => mem_retain.mpr ⟨h.entry hc, h.marker ▸ hc⟩,
        fun entry he => h.only entry (mem_retain.mp he).1⟩
    · rw [hw]
      refine ⟨h.marker, h.allocated, ⟨h.made.1, Nat.lt_succ_of_lt h.made.2⟩, fun hc => ?_,
        fun entry he hsame => ?_⟩
      · exact List.mem_cons_of_mem _ (mem_retain.mpr ⟨h.entry hc, h.marker ▸ hc⟩)
      · obtain rfl | he := List.mem_cons.mp he
        · obtain rfl | hsame := hsame
          · -- A live session that is remembered has an entry at its address.
            exact absurd rfl (hnone _ (mem_retain.mpr ⟨h.entry hother, h.marker.symm ▸ hother⟩))
          · exact absurd h.made.2 (by rw [← hsame]; exact Nat.lt_irrefl _)
        · exact h.only entry (mem_retain.mp he).1 hsame
  | release _ =>
    exact h.shrink ⟨[], (List.append_nil _).symm⟩ rfl rfl fun hc => hc

/-- A later lookup returns a remembered scope to its own session and to no other. -/
theorem Remembers.lookup (h : w.Remembers c scope) (hw : w.Sound) (hc : connection ∈ w.clones) :
    (w.sessionScope connection).1.active = scope.active ↔ connection = c := by
  obtain ⟨found, hfound, heq⟩ | ⟨hnone, heq⟩ := w.sessionScope_cases connection
  · have hmem := (mem_retain.mp hfound).1
    have hmarker := hw.entry_of_key hc hmem rfl
    rw [heq]
    constructor
    · intro hsame
      have := h.only _ hmem (.inr hsame)
      rw [← hmarker, ← h.marker, ← this]
    · rintro rfl
      exact congrArg SessionScope.active (h.only _ hmem (.inl hmarker))
  · rw [heq]
    constructor
    · intro hsame
      exact absurd h.made.2 (by rw [← hsame]; exact Nat.lt_irrefl _)
    · rintro rfl
      exact absurd rfl (hnone _ (mem_retain.mpr ⟨h.entry hc, h.marker ▸ hc⟩))

/-- Right after a lookup every session in the table has a live clone. -/
theorem live_of_lookup (hc : c ∈ w.clones) {entry : Nat × SessionScope}
    (he : entry ∈ (w.sessionScope c).2.table) : entry.2.marker ∈ (w.sessionScope c).2.clones := by
  obtain ⟨scope, _, hw⟩ | ⟨_, hw⟩ := w.sessionScope_cases c
  · rw [hw] at he ⊢
    exact (mem_retain.mp he).2
  · rw [hw] at he ⊢
    obtain rfl | he := List.mem_cons.mp he
    · exact hc
    · exact (mem_retain.mp he).2

/-- A connection without live clones has none again. -/
theorem dead_step (hs : ScopeStep w a w') (h : c < w.addresses.length ∧ c ∉ w.clones) :
    c < w'.addresses.length ∧ c ∉ w'.clones := by
  obtain ⟨hlt, hc⟩ := h
  cases hs with
  | create address _ =>
    refine ⟨?_, fun hmem => ?_⟩
    · rw [List.length_append]
      exact Nat.lt_add_right _ hlt
    · obtain rfl | hmem := List.mem_cons.mp hmem
      · exact Nat.lt_irrefl _ hlt
      · exact hc hmem
  | clone hclone =>
    refine ⟨hlt, fun hmem => ?_⟩
    obtain rfl | hmem := List.mem_cons.mp hmem
    · exact hc hclone
    · exact hc hmem
  | drop _ => exact ⟨hlt, fun hmem => hc (List.mem_of_mem_erase hmem)⟩
  | @lookup other _ =>
    obtain ⟨_, _, hw⟩ | ⟨_, hw⟩ := w.sessionScope_cases other <;> rw [hw] <;> exact ⟨hlt, hc⟩
  | release _ => exact ⟨hlt, hc⟩

end ScopeRun

/-- Two lookups of one runtime return the same invocations and permits exactly when they are for
clones of one connection that stayed alive in every state between them, and right after a lookup
the table holds no entry of a session without a live clone. -/
theorem session_scopes_never_mix (first second : ScopeRun) (c c' : Nat)
    (hfirst : scopeSystem.Reachable first) (hc : c ∈ first.clones)
    (hrun : scopeSystem.Run (first.sessionScope c).2 second) (hc' : c' ∈ second.clones) :
    ((first.sessionScope c).1.active = (second.sessionScope c').1.active ∧
        (first.sessionScope c).1.overloadPermits = (second.sessionScope c').1.overloadPermits ↔
      c = c' ∧ ∀ between, scopeSystem.Run (first.sessionScope c).2 between →
        scopeSystem.Run between second → c ∈ between.clones) ∧
    ∀ entry ∈ (second.sessionScope c').2.table,
      entry.2.marker ∈ (second.sessionScope c').2.clones := by
  have hafter : scopeSystem.Reachable (first.sessionScope c).2 := hfirst.step (.lookup hc)
  have hsecond := hafter.run hrun
  have hremembers := hrun.stable (P := (ScopeRun.Remembers · c (first.sessionScope c).1))
    (fun _ _ _ hs h => h.step hs) ((ScopeRun.sound_of_reachable hfirst).remembers hc)
  have hsound := ScopeRun.sound_of_reachable hsecond
  have hsame := hremembers.lookup hsound hc'
  have hpermits := (hsound.remembers hc').made.1
  refine ⟨⟨fun h => ?_, fun h => ?_⟩, fun entry he => ScopeRun.live_of_lookup hc' he⟩
  · obtain rfl := hsame.mp h.1.symm
    refine ⟨rfl, fun between hbefore hbehind => ?_⟩
    by_contra hdead
    have hlt := (hbefore.stable (P := (ScopeRun.Remembers · c' (first.sessionScope c').1))
      (fun _ _ _ hs h => h.step hs) ((ScopeRun.sound_of_reachable hfirst).remembers hc)).allocated
    exact (hbehind.stable (P := fun w => c' < w.addresses.length ∧ c' ∉ w.clones)
      (fun _ _ _ hs h => ScopeRun.dead_step hs h) ⟨hlt, hdead⟩).2 hc'
  · have hactive := hsame.mpr h.1.symm
    refine ⟨hactive.symm, ?_⟩
    rw [← hremembers.made.1, ← hpermits, hactive]

/-- A session that was looked up is dropped, swept by the lookup of another and released, and a
third gets its address. It does not get its scope. -/
theorem session_scopes_never_mix_reused :
    ∃ first second : ScopeRun, first.addressOf 0 = second.addressOf 2 ∧
      (first.sessionScope 0).1.active ≠ (second.sessionScope 2).1.active := by
  have hcreate : ScopeStep ⟨[], [], [], [], 0⟩ (.create 5) ⟨[5], [0], [], [], 0⟩ :=
    .create 5 fun m hm => by simp [ScopeRun.kept_iff] at hm
  have hdrop : ScopeStep ⟨[5], [0], [(5, ⟨0, 0, 0⟩)], [⟨0, 0, 0⟩], 1⟩ (.drop 0)
      ⟨[5], [], [(5, ⟨0, 0, 0⟩)], [⟨0, 0, 0⟩], 1⟩ := .drop (by decide)
  have hother : ScopeStep ⟨[5], [], [(5, ⟨0, 0, 0⟩)], [⟨0, 0, 0⟩], 1⟩ (.create 6)
      ⟨[5, 6], [1], [(5, ⟨0, 0, 0⟩)], [⟨0, 0, 0⟩], 1⟩ := .create 6 fun m hm => by
    simp [ScopeRun.kept_iff] at hm
    simp [← hm]
  have hsweep : ScopeStep ⟨[5, 6], [1], [(5, ⟨0, 0, 0⟩)], [⟨0, 0, 0⟩], 1⟩ (.lookup 1)
      ⟨[5, 6], [1], [(6, ⟨1, 1, 1⟩)], [⟨1, 1, 1⟩, ⟨0, 0, 0⟩], 2⟩ := .lookup (by decide)
  have hrelease : ScopeStep ⟨[5, 6], [1], [(6, ⟨1, 1, 1⟩)], [⟨1, 1, 1⟩, ⟨0, 0, 0⟩], 2⟩
      (.release ⟨0, 0, 0⟩) ⟨[5, 6], [1], [(6, ⟨1, 1, 1⟩)], [⟨1, 1, 1⟩], 2⟩ := .release (by decide)
  have hthird : ScopeStep ⟨[5, 6], [1], [(6, ⟨1, 1, 1⟩)], [⟨1, 1, 1⟩], 2⟩ (.create 5)
      ⟨[5, 6, 5], [2, 1], [(6, ⟨1, 1, 1⟩)], [⟨1, 1, 1⟩], 2⟩ := .create 5 fun m hm => by
    simp [ScopeRun.kept_iff] at hm
    obtain rfl | rfl := hm <;> decide
  have hswept := ((System.Run.single (S := scopeSystem) hdrop).snoc hother).snoc hsweep
  have hrun := (hswept.snoc hrelease).snoc hthird
  refine ⟨⟨[5], [0], [], [], 0⟩, ⟨[5, 6, 5], [2, 1], [(6, ⟨1, 1, 1⟩)], [⟨1, 1, 1⟩], 2⟩, rfl,
    fun hsame => ?_⟩
  have hmix := (session_scopes_never_mix ⟨[5], [0], [], [], 0⟩ _ 0 2
    ((System.Reachable.initial rfl).step hcreate) (by decide) hrun (by decide)).1
  exact absurd (hmix.mp ⟨hsame, hsame⟩).1 (by decide)

end OpenclawNode.Node
