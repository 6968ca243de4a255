import Mathlib.Algebra.GroupWithZero.Nat
import Mathlib.Data.List.Infix

/-! The longest suffix of a sequence that fits a bound on its length and one on its weight. -/
namespace Window

variable {α : Type*} {weight : α → Nat} {capacity budget : Nat} {s t l : List α} {x : α}

def total (weight : α → Nat) (l : List α) : Nat := (l.map weight).sum

@[simp] theorem total_nil : total weight [] = 0 := rfl

@[simp] theorem total_cons : total weight (x :: l) = weight x + total weight l := rfl

@[simp] theorem total_append : total weight (s ++ t) = total weight s + total weight t := by
  simp [total]

structure Fits (weight : α → Nat) (capacity budget : Nat) (l : List α) : Prop where
  length_le : l.length ≤ capacity
  total_le : total weight l ≤ budget

/-- The longest suffix that fits both bounds. -/
structure Longest (weight : α → Nat) (capacity budget : Nat) (s l : List α) : Prop where
  suffix : s <:+ l
  fits : Fits weight capacity budget s
  longest : ∀ t, t <:+ l → Fits weight capacity budget t → t <:+ s

/-- Drop from the front until one more element of the given weight fits. -/
def evict (weight : α → Nat) (capacity budget added : Nat) : List α → List α
  | [] => []
  | x :: l =>
    if capacity ≤ (x :: l).length ∨ budget < total weight (x :: l) + added then
      evict weight capacity budget added l
    else x :: l

theorem evict_suffix (added : Nat) (l : List α) :
    evict weight capacity budget added l <:+ l := by
  induction l with
  | nil => exact List.suffix_refl _
  | cons x l ih =>
    rw [evict]
    split
    · exact ih.trans (List.suffix_cons x l)
    · exact List.suffix_refl _

/-- Eviction makes room. -/
theorem evict_room {added : Nat} (hcapacity : 1 ≤ capacity) (hadded : added ≤ budget)
    (l : List α) :
    (evict weight capacity budget added l).length + 1 ≤ capacity ∧
      total weight (evict weight capacity budget added l) + added ≤ budget := by
  induction l with
  | nil => simpa [evict] using ⟨hcapacity, hadded⟩
  | cons x l ih =>
    rw [evict]
    split
    · exact ih
    · next h =>
      simp only [not_or, not_le, not_lt] at h
      exact ⟨h.1, h.2⟩

/-- Eviction drops nothing that could have stayed. -/
theorem suffix_evict {added : Nat} (ht : t <:+ l) (hlength : t.length + 1 ≤ capacity)
    (htotal : total weight t + added ≤ budget) :
    t <:+ evict weight capacity budget added l := by
  induction l with
  | nil => simpa [evict] using ht
  | cons x l ih =>
    rw [evict]
    split
    · next h =>
      rcases List.suffix_cons_iff.mp ht with rfl | ht
      · omega
      · exact ih ht
    · exact ht

/-- The window of a sequence that grows by one element that fits. -/
theorem Longest.push (h : Longest weight capacity budget s l) (hcapacity : 1 ≤ capacity)
    (hx : weight x ≤ budget) :
    Longest weight capacity budget (evict weight capacity budget (weight x) s ++ [x])
      (l ++ [x]) where
  suffix := by
    obtain ⟨front, hfront⟩ := (evict_suffix (weight x) s).trans h.suffix
    exact ⟨front, by rw [← List.append_assoc, hfront]⟩
  fits := by
    obtain ⟨hlength, htotal⟩ : (evict weight capacity budget (weight x) s).length + 1 ≤ capacity ∧
        total weight (evict weight capacity budget (weight x) s) + weight x ≤ budget :=
      evict_room hcapacity hx s
    exact ⟨by simpa using hlength, by simpa using htotal⟩
  longest := by
    intro t ht hfits
    rcases List.eq_nil_or_concat t with rfl | ⟨t, y, rfl⟩
    · exact List.nil_suffix
    · obtain ⟨front, hfront⟩ := ht
      rw [List.concat_eq_append, ← List.append_assoc] at hfront
      obtain ⟨hl, hy⟩ := List.append_inj' hfront rfl
      cases hy
      have hlength := hfits.length_le
      have htotal := hfits.total_le
      rw [List.concat_eq_append] at hlength htotal
      simp only [List.length_append, List.length_singleton, total_append, total_cons,
        total_nil, Nat.add_zero] at hlength htotal
      have htl : t <:+ s := h.longest t ⟨front, hl⟩ ⟨by omega, by omega⟩
      have hsuffix : t <:+ evict weight capacity budget (weight x) s :=
        suffix_evict htl hlength (by simpa using htotal)
      obtain ⟨rest, hrest⟩ := hsuffix
      exact ⟨rest, by rw [List.concat_eq_append, ← List.append_assoc, hrest]⟩

theorem Longest.nil : Longest weight capacity budget [] [] where
  suffix := List.suffix_refl _
  fits := ⟨Nat.zero_le _, Nat.zero_le _⟩
  longest := fun _ ht _ => ht

end Window
