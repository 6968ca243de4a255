import Mathlib.Algebra.Group.Nat.Defs
import Mathlib.Order.Lattice

/-! Fixed-width counters that do not overflow, and the least of two words. -/
namespace FixedWidth

/-- `checked_add(1)` on `u64`. -/
def checkedSucc (n : UInt64) : Option UInt64 :=
  if n.toNat + 1 < 2 ^ 64 then some (n + 1) else none

theorem checkedSucc_eq_some {n m : UInt64} :
    checkedSucc n = some m ↔ n.toNat + 1 < 2 ^ 64 ∧ m = n + 1 := by
  unfold checkedSucc
  split <;> simp_all [eq_comm]

theorem toNat_succ {n : UInt64} (h : n.toNat + 1 < 2 ^ 64) : (n + 1).toNat = n.toNat + 1 := by
  rw [UInt64.toNat_add]
  simpa using Nat.mod_eq_of_lt h

theorem min_comm_u16 (x y : UInt16) : min x y = min y x := by
  apply UInt16.toNat_inj.mp
  rw [UInt16.toNat_min, UInt16.toNat_min, Nat.min_comm]

theorem min_comm_u32 (x y : UInt32) : min x y = min y x := by
  apply UInt32.toNat_inj.mp
  rw [UInt32.toNat_min, UInt32.toNat_min, Nat.min_comm]

end FixedWidth
