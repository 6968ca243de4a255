import Mathlib.Algebra.BigOperators.Group.List.Basic
import Mathlib.Tactic

/-! Fields written one after another with a separator between them. -/
namespace Delimited

variable {α : Type*} [DecidableEq α] {sep : α} {x y rest rest' : List α} {xs ys : List (List α)}

/-- The number of separators inside a field tells where it ends. -/
theorem field_eq (h : x ++ sep :: rest = y ++ sep :: rest')
    (hcount : x.count sep = y.count sep) : x = y ∧ rest = rest' := by
  obtain ⟨tail, hy, hrest⟩ | ⟨tail, hx, hrest⟩ := List.append_eq_append_iff.mp h
  · cases tail with
    | nil => exact ⟨by rw [hy, List.append_nil], (List.cons.inj hrest).2⟩
    | cons c tail =>
      rw [hy, ← (List.cons.inj hrest).1, List.count_append, List.count_cons_self] at hcount
      omega
  · cases tail with
    | nil => exact ⟨by rw [hx, List.append_nil], (List.cons.inj hrest).2.symm⟩
    | cons c tail =>
      rw [hx, ← (List.cons.inj hrest).1, List.count_append, List.count_cons_self] at hcount
      omega

/-- The fields are told apart by how many separators each of them holds. -/
theorem fields_eq (hcount : xs.map (List.count sep) = ys.map (List.count sep))
    (h : [sep].intercalate xs = [sep].intercalate ys) : xs = ys := by
  induction xs generalizing ys with
  | nil =>
    cases ys with
    | nil => rfl
    | cons y ys => cases hcount
  | cons x xs ih =>
    cases ys with
    | nil => cases hcount
    | cons y ys =>
      obtain ⟨hx, hxs⟩ := List.cons.inj hcount
      cases xs with
      | nil =>
        obtain rfl := List.map_eq_nil_iff.mp hxs.symm
        rw [List.intercalate_singleton, List.intercalate_singleton] at h
        rw [h]
      | cons x' xs =>
        cases ys with
        | nil => cases hxs
        | cons y' ys =>
          rw [List.intercalate_cons_cons, List.intercalate_cons_cons, List.append_assoc,
            List.append_assoc] at h
          obtain ⟨rfl, hrest⟩ := field_eq h hx
          rw [ih hxs hrest]

/-- The fields in front that hold no separator are told apart whatever follows them. -/
theorem front_eq {front front' : List (List α)} (hlength : front.length = front'.length)
    (hfree : ∀ f ∈ front, sep ∉ f) (hfree' : ∀ f ∈ front', sep ∉ f) (hxs : xs ≠ []) (hys : ys ≠ [])
    (h : [sep].intercalate (front ++ xs) = [sep].intercalate (front' ++ ys)) :
    front = front' ∧ [sep].intercalate xs = [sep].intercalate ys := by
  induction front generalizing front' with
  | nil =>
    obtain rfl := List.length_eq_zero_iff.mp hlength.symm
    exact ⟨rfl, h⟩
  | cons f front ih =>
    cases front' with
    | nil => cases hlength
    | cons f' front' =>
      have hne : front ++ xs ≠ [] := List.append_ne_nil_of_right_ne_nil _ hxs
      have hne' : front' ++ ys ≠ [] := List.append_ne_nil_of_right_ne_nil _ hys
      rw [List.cons_append, List.cons_append, List.intercalate_cons_of_ne_nil hne,
        List.intercalate_cons_of_ne_nil hne', List.append_assoc, List.append_assoc] at h
      have hcount : f.count sep = f'.count sep := by
        rw [List.count_eq_zero_of_not_mem (hfree f List.mem_cons_self),
          List.count_eq_zero_of_not_mem (hfree' f' List.mem_cons_self)]
      obtain ⟨rfl, hrest⟩ := field_eq h hcount
      obtain ⟨rfl, htail⟩ := ih (Nat.succ.inj hlength)
        (fun g hg => hfree g (List.mem_cons_of_mem _ hg))
        (fun g hg => hfree' g (List.mem_cons_of_mem _ hg)) hrest
      exact ⟨rfl, htail⟩

/-- The separators written are those inside the fields and one between any two of them. -/
theorem count_intercalate (hxs : xs ≠ []) :
    ([sep].intercalate xs).count sep + 1 = (xs.map (List.count sep)).sum + xs.length := by
  induction xs with
  | nil => exact absurd rfl hxs
  | cons x xs ih =>
    cases xs with
    | nil =>
      rw [List.intercalate_singleton, List.map_singleton, List.sum_singleton, List.length_singleton]
    | cons x' xs =>
      have ih := ih (List.cons_ne_nil x' xs)
      rw [List.intercalate_cons_cons, List.count_append, List.count_append, List.map_cons,
        List.sum_cons, List.length_cons, List.count_singleton_self]
      omega

/-- Numbers that add up to the same and agree in all places but one agree there too. -/
theorem eq_of_sum_eq {counts counts' : List ℕ} {i : ℕ} (hlength : counts.length = counts'.length)
    (hsum : counts.sum = counts'.sum) (h : ∀ j, j ≠ i → counts[j]? = counts'[j]?) :
    counts = counts' := by
  induction counts generalizing counts' i with
  | nil => exact (List.length_eq_zero_iff.mp hlength.symm).symm
  | cons c counts ih =>
    cases counts' with
    | nil => cases hlength
    | cons c' counts' =>
      rw [List.sum_cons, List.sum_cons] at hsum
      cases i with
      | zero =>
        have htail : counts = counts' :=
          List.ext_getElem? fun j => h (j + 1) (Nat.succ_ne_zero j)
        rw [htail] at hsum ⊢
        rw [Nat.add_right_cancel hsum]
      | succ i =>
        obtain rfl : c = c' := Option.some.inj (h 0 (Nat.succ_ne_zero i).symm)
        have htail : ∀ j, j ≠ i → counts[j]? = counts'[j]? :=
          fun j hj => h (j + 1) fun he => hj (Nat.succ.inj he)
        rw [ih (Nat.succ.inj hlength) (Nat.add_left_cancel hsum) htail]

/-- It is enough that all fields but one are known to hold as many separators. -/
theorem fields_eq_of_all_but_one {i : ℕ} (hlength : xs.length = ys.length) (hxs : xs ≠ [])
    (hcount : ∀ j, j ≠ i → (xs.map (List.count sep))[j]? = (ys.map (List.count sep))[j]?)
    (h : [sep].intercalate xs = [sep].intercalate ys) : xs = ys := by
  have hys : ys ≠ [] := by
    rintro rfl
    exact hxs (List.length_eq_zero_iff.mp hlength)
  have hx := @count_intercalate α _ sep xs hxs
  have hy := @count_intercalate α _ sep ys hys
  rw [h] at hx
  refine fields_eq (eq_of_sum_eq ?_ (by omega) hcount) h
  rw [List.length_map, List.length_map, hlength]

end Delimited
