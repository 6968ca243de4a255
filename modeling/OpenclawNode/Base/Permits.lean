import Mathlib.Algebra.Order.Group.Multiset
import Mathlib.Tactic

/-! Numbered permits of a semaphore, each free or with exactly one holder. -/
namespace Permits

variable {α : Type*} {permit : α → ℕ} {n : ℕ} {free rest : List ℕ} {held gone : Multiset α}

/-- The free permits and those of the holders are all there are, without repetition. -/
def Accounted (permit : α → ℕ) (n : ℕ) (free : List ℕ) (held : Multiset α) : Prop :=
  (free : Multiset ℕ) + held.map permit = Multiset.range n

theorem Accounted.initial : Accounted permit n (List.range n) 0 := by
  simp [Accounted, Multiset.range]

theorem Accounted.acquire {a : α} (h : Accounted permit n free held)
    (hf : free = permit a :: rest) : Accounted permit n rest (a ::ₘ held) := by
  subst hf
  rw [Accounted, ← Multiset.cons_coe, Multiset.cons_add] at h
  rw [Accounted, Multiset.map_cons, Multiset.add_cons]
  exact h

theorem Accounted.release {free' : List ℕ} {held' : Multiset α} (h : Accounted permit n free held)
    (hheld : held = gone + held')
    (hfree : (free' : Multiset ℕ) = free + gone.map permit) : Accounted permit n free' held' := by
  rw [Accounted, hheld, Multiset.map_add, ← add_assoc, ← hfree] at h
  exact h

theorem Accounted.card (h : Accounted permit n free held) : free.length + held.card = n := by
  have hcard := congrArg Multiset.card h
  simpa using hcard

/-- No permit has two holders, and none that is held is free. -/
theorem Accounted.nodup (h : Accounted permit n free held) :
    ((free : Multiset ℕ) + held.map permit).Nodup := by
  rw [h]
  exact Multiset.nodup_range n

end Permits
