import OpenclawNode.Base.Except

/-! Computations that may crash, and those among them that never do. -/
namespace Crash

variable {ε α β : Type}

/-- A computation that returns a value or an error, or crashes. -/
abbrev Checked (ε α : Type) := ExceptT ε Option α

/-- It does not crash. -/
def lift (x : Except ε α) : Checked ε α := ExceptT.mk (some x)

/-- It crashes when there is no value. -/
def orCrash (x : Option α) : Checked ε α := ExceptT.mk (x.map .ok)

theorem lift_bind (x : Except ε α) (f : α → Except ε β) :
    lift (x >>= f) = lift x >>= fun a => lift (f a) := by
  cases x <;> rfl

theorem orCrash_some_bind (a : α) (f : α → Checked ε β) : orCrash (some a) >>= f = f a := rfl

/-- What follows a value matters only for the values that are returned. -/
theorem lift_bind_congr {x : Except ε α} {f g : α → Checked ε β}
    (h : ∀ a, x = .ok a → f a = g a) : lift x >>= f = lift x >>= g := by
  cases x with
  | error e => rfl
  | ok a => exact h a rfl

/-- A computation that gets a value and then does not crash is the one that does not check. -/
theorem lift_bind_eq {x : Except ε α} {f : α → Checked ε β} {g : α → Except ε β}
    (h : ∀ a, x = .ok a → f a = lift (g a)) : lift x >>= f = lift (x >>= g) := by
  rw [lift_bind]
  exact lift_bind_congr h

/-- `checked_sub`. -/
def checkedSub (m n : Nat) : Option Nat := if n ≤ m then some (m - n) else none

/-- `split_at`, which crashes past the end. -/
def splitAt (xs : List α) (n : Nat) : Option (List α × List α) :=
  if n ≤ xs.length then some (xs.take n, xs.drop n) else none

theorem checkedSub_of_le {m n : Nat} (h : n ≤ m) : checkedSub m n = some (m - n) := if_pos h

theorem splitAt_of_le {xs : List α} {n : Nat} (h : n ≤ xs.length) :
    splitAt xs n = some (xs.take n, xs.drop n) := if_pos h

end Crash
