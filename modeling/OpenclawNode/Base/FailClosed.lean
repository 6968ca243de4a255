import Mathlib.Logic.Function.Basic
import OpenclawNode.Base.Transition

/-! Objects that keep to one resource of a pool and that end with it at the first failed call. -/
namespace FailClosed

open Transition (System)

variable {I R σ A E : Type*}

/-- A resource with an identity that can be used up for good, whoever uses it. -/
structure Resource (I R : Type*) where
  id : R → I
  spent : R → Prop
  spend : R → R
  Use : R → R → Prop
  id_spend : ∀ r, id (spend r) = id r
  spent_spend : ∀ r, spent (spend r)
  id_use : ∀ {r r'}, Use r r' → id r' = id r
  spent_use : ∀ {r r'}, Use r r' → spent r → spent r'

/-- An object whose calls take a resource, with the error for any resource but the bound one. -/
structure Machine (I R σ A E : Type*) where
  resource : Resource I R
  call : σ → A → R → Except E Unit × σ × R
  Initial : σ → Prop
  bound : σ → Option I
  mismatch : E
  Failed : σ → Prop
  Cleared : σ → Prop
  Consistent : σ → Prop

/-- One object and the resources it can be called with. -/
structure Holder (I R σ : Type*) where
  object : σ
  pool : I → Option R

inductive Action (I A E : Type*)
  | call (a : A) (i : I) (result : Except E Unit)
  | use (i : I)
  | create (i : I)

namespace Machine

variable (m : Machine I R σ A E)

/-- The three ways a call ends. -/
inductive Ends (o : σ) (r : R) : Except E Unit × σ × R → Prop
  | mismatch : m.bound o ≠ none → m.bound o ≠ some (m.resource.id r) →
      Ends o r (.error m.mismatch, o, m.resource.spend r)
  | failed {error o' r'} : error ≠ m.mismatch →
      m.bound o = none ∨ m.bound o = some (m.resource.id r) →
      m.bound o' = some (m.resource.id r) → m.Failed o' → m.Cleared o' → m.Consistent o' →
      m.resource.id r' = m.resource.id r → m.resource.spent r' → Ends o r (.error error, o', r')
  | done {o' r'} : m.bound o = none ∨ m.bound o = some (m.resource.id r) →
      m.bound o' = some (m.resource.id r) → ¬ m.Failed o → ¬ m.Failed o' →
      (m.Consistent o → m.Consistent o') → m.resource.id r' = m.resource.id r →
      Ends o r (.ok (), o', r')

/-- Every call ends in one of the three ways, and no object starts out failed. -/
structure Lawful : Prop where
  initial : ∀ o, m.Initial o → ¬ m.Failed o ∧ m.Consistent o
  ends : ∀ o a r, m.Ends o r (m.call o a r)

section

variable {m}

theorem Ends.id_eq {o o' : σ} {r r' : R} {result : Except E Unit}
    (h : m.Ends o r (result, o', r')) : m.resource.id r' = m.resource.id r := by
  cases h with
  | mismatch _ _ => exact m.resource.id_spend r
  | failed _ _ _ _ _ _ hid _ => exact hid
  | done _ _ _ _ _ hid => exact hid

theorem Ends.consistent {o o' : σ} {r r' : R} {result : Except E Unit}
    (h : m.Ends o r (result, o', r')) (hc : m.Consistent o) : m.Consistent o' := by
  cases h with
  | mismatch _ _ => exact hc
  | failed _ _ _ _ _ hcons _ _ => exact hcons
  | done _ _ _ _ hcons _ => exact hcons hc

/-- A failed object stays failed. -/
theorem Ends.failed_of_failed {o o' : σ} {r r' : R} {result : Except E Unit}
    (h : m.Ends o r (result, o', r')) (hf : m.Failed o) : m.Failed o' := by
  cases h with
  | mismatch _ _ => exact hf
  | failed _ _ _ hf' _ _ _ _ => exact hf'
  | done _ _ hn _ _ _ => exact absurd hf hn

/-- The bound resource stays the same. -/
theorem Ends.bound_of_bound {o o' : σ} {r r' : R} {result : Except E Unit} {i : I}
    (h : m.Ends o r (result, o', r')) (hb : m.bound o = some i) : m.bound o' = some i := by
  cases h with
  | mismatch _ _ => exact hb
  | failed _ hold hnew _ _ _ _ _ =>
    rcases hold with hold | hold
    · exact absurd (hold.symm.trans hb) (by simp)
    · exact hnew.trans (hold.symm.trans hb)
  | done hold hnew _ _ _ _ =>
    rcases hold with hold | hold
    · exact absurd (hold.symm.trans hb) (by simp)
    · exact hnew.trans (hold.symm.trans hb)

end

variable [DecidableEq I]

inductive Step : Holder I R σ → Action I A E → Holder I R σ → Prop
  | call {w a i r result o' r'} : w.pool i = some r → m.call w.object a r = (result, o', r') →
      Step w (.call a i result) ⟨o', Function.update w.pool i (some r')⟩
  | use {w i r r'} : w.pool i = some r → m.resource.Use r r' →
      Step w (.use i) { w with pool := Function.update w.pool i (some r') }
  | create {w i r} : w.pool i = none → m.resource.id r = i →
      Step w (.create i) { w with pool := Function.update w.pool i (some r) }

/-- Any order of calls on any resource, among whatever else happens to the resources. -/
def system : System (Holder I R σ) (Action I A E) where
  Initial w := m.Initial w.object ∧ ∀ i r, w.pool i = some r → m.resource.id r = i
  Step := m.Step

/-- Every resource in the pool stands under its own identity, and a failed object's is spent. -/
structure Sound (w : Holder I R σ) : Prop where
  named : ∀ i r, w.pool i = some r → m.resource.id r = i
  consistent : m.Consistent w.object
  spent : m.Failed w.object →
    ∃ i r, m.bound w.object = some i ∧ w.pool i = some r ∧ m.resource.spent r

/-- What failing closed means in a state. -/
structure Closed (w : Holder I R σ) : Prop where
  /-- A call that fails on the bound resource ends the object and the resource. -/
  failed : ∀ a i error w', m.Step w (.call a i (.error error)) w' → error ≠ m.mismatch →
    m.Failed w'.object ∧ m.Cleared w'.object ∧ m.bound w'.object = some i ∧
      ∃ r, w'.pool i = some r ∧ m.resource.spent r
  /-- A call with another resource costs only that resource. -/
  mismatch : ∀ a i w', m.Step w (.call a i (.error m.mismatch)) w' →
    w'.object = w.object ∧ (∃ j, m.bound w.object = some j ∧ j ≠ i) ∧
      (∃ r, w.pool i = some r ∧ w'.pool i = some (m.resource.spend r)) ∧
      ∀ j, j ≠ i → w'.pool j = w.pool j
  /-- A failed object stays failed, and its resource is spent. -/
  absorbing : m.Failed w.object →
    (∃ i r, m.bound w.object = some i ∧ w.pool i = some r ∧ m.resource.spent r) ∧
      ∀ w', m.system.Run w w' → m.Failed w'.object
  /-- The bound resource stays the same. -/
  bound : ∀ i, m.bound w.object = some i → ∀ w', m.system.Run w w' → m.bound w'.object = some i
  consistent : m.Consistent w.object

variable {m} {w w' : Holder I R σ}

theorem named_update {pool : I → Option R} (h : ∀ i r, pool i = some r → m.resource.id r = i)
    {i : I} {r : R} (hr : m.resource.id r = i) (j : I) (r' : R)
    (hj : Function.update pool i (some r) j = some r') : m.resource.id r' = j := by
  by_cases hji : j = i
  · subst hji
    rw [Function.update_self] at hj
    cases hj
    exact hr
  · rw [Function.update_of_ne hji] at hj
    exact h j r' hj

/-- A spent resource of the pool stays there, spent, whatever is used. -/
theorem spent_update {pool : I → Option R} {i j : I} {r r' : R} (hi : pool i = some r)
    (hs : m.resource.spent r → m.resource.spent r')
    (h : ∃ r, pool j = some r ∧ m.resource.spent r) :
    ∃ r, Function.update pool i (some r') j = some r ∧ m.resource.spent r := by
  obtain ⟨s, hj, hspent⟩ := h
  by_cases hji : j = i
  · subst hji
    rw [hi] at hj
    cases hj
    exact ⟨r', by simp, hs hspent⟩
  · exact ⟨s, by rw [Function.update_of_ne hji, hj], hspent⟩

theorem sound_step (hm : m.Lawful) {a : Action I A E} (hs : m.Step w a w') (h : m.Sound w) :
    m.Sound w' := by
  cases hs with
  | @call a i r result o' r' hi hcall =>
    have hends := hm.ends w.object a r
    rw [hcall] at hends
    have hid := h.named i r hi
    refine ⟨fun j s => named_update h.named (hends.id_eq.trans hid) j s,
      hends.consistent h.consistent, ?_⟩
    intro hf
    cases hends with
    | mismatch _ hne =>
      obtain ⟨j, s, hb, hj, hspent⟩ := h.spent hf
      obtain ⟨s, hs⟩ := spent_update hi (fun _ => m.resource.spent_spend r) ⟨s, hj, hspent⟩
      exact ⟨j, s, hb, hs⟩
    | failed _ _ hb _ _ _ _ hspent => exact ⟨i, r', hid ▸ hb, by simp, hspent⟩
    | done _ _ _ hn _ _ => exact absurd hf hn
  | @use i r r' hi huse =>
    refine ⟨fun j s => named_update h.named
      ((m.resource.id_use huse).trans (h.named i r hi)) j s, h.consistent, ?_⟩
    intro hf
    obtain ⟨j, s, hb, hj, hspent⟩ := h.spent hf
    obtain ⟨s, hs⟩ := spent_update hi (m.resource.spent_use huse) ⟨s, hj, hspent⟩
    exact ⟨j, s, hb, hs⟩
  | @create i r hi hid =>
    refine ⟨fun j s => named_update h.named hid j s, h.consistent, ?_⟩
    intro hf
    obtain ⟨j, s, hb, hj, hspent⟩ := h.spent hf
    have hji : j ≠ i := by
      rintro rfl
      rw [hi] at hj
      cases hj
    exact ⟨j, s, hb, (Function.update_of_ne hji _ _).trans hj, hspent⟩

theorem sound_reachable (hm : m.Lawful) (hw : m.system.Reachable w) : m.Sound w := by
  refine hw.invariant ?_ ?_
  · intro w hi
    obtain ⟨hn, hc⟩ := hm.initial w.object hi.1
    exact ⟨hi.2, hc, fun hf => absurd hf hn⟩
  · exact fun _ _ _ hs h => sound_step hm hs h

theorem failed_run (hm : m.Lawful) (hr : m.system.Run w w') (hf : m.Failed w.object) :
    m.Failed w'.object := by
  refine hr.stable (P := fun w => m.Failed w.object) ?_ hf
  intro w a w' hs hf
  cases hs with
  | @call a i r result o' r' _ hcall =>
    have hends := hm.ends w.object a r
    rw [hcall] at hends
    exact hends.failed_of_failed hf
  | use _ _ => exact hf
  | create _ _ => exact hf

theorem bound_run (hm : m.Lawful) (hr : m.system.Run w w') {i : I}
    (hb : m.bound w.object = some i) : m.bound w'.object = some i := by
  refine hr.stable (P := fun w => m.bound w.object = some i) ?_ hb
  intro w a w' hs hb
  cases hs with
  | @call a i r result o' r' _ hcall =>
    have hends := hm.ends w.object a r
    rw [hcall] at hends
    exact hends.bound_of_bound hb
  | use _ _ => exact hb
  | create _ _ => exact hb

/-- A lawful machine fails closed in every reachable state. -/
theorem closed_reachable (hm : m.Lawful) (hw : m.system.Reachable w) : m.Closed w where
  failed := by
    intro a i error w' hs hne
    have hsound := sound_reachable hm hw
    cases hs with
    | @call _ _ r _ o' r' hi hcall =>
      have hends := hm.ends w.object a r
      rw [hcall] at hends
      cases hends with
      | mismatch _ _ => exact absurd rfl hne
      | failed _ _ hb hf hclear _ _ hspent =>
        exact ⟨hf, hclear, hsound.named i r hi ▸ hb, r', by simp, hspent⟩
  mismatch := by
    intro a i w' hs
    have hsound := sound_reachable hm hw
    cases hs with
    | @call _ _ r _ o' r' hi hcall =>
      have hends := hm.ends w.object a r
      rw [hcall] at hends
      cases hends with
      | mismatch hsome hne =>
        obtain ⟨j, hj⟩ := Option.ne_none_iff_exists'.mp hsome
        refine ⟨rfl, ⟨j, hj, ?_⟩, ⟨r, hi, by simp⟩, fun j hji => by simp [hji]⟩
        rintro rfl
        exact hne (hj.trans (congrArg some (hsound.named _ r hi).symm))
      | failed hne _ _ _ _ _ _ _ => exact absurd rfl hne
  absorbing := fun hf => ⟨(sound_reachable hm hw).spent hf, fun _ hr => failed_run hm hr hf⟩
  bound := fun _ hb _ hr => bound_run hm hr hb
  consistent := (sound_reachable hm hw).consistent

end Machine
end FailClosed
