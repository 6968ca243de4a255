import Mathlib.Algebra.Group.Nat.Defs
import Mathlib.Data.List.Range

/-! Names that a fixed-width counter hands out, one after the other. -/
namespace Numbering

variable {α : Type*} {name : UInt64 → α} {next : UInt64} {names : List α}

/-- Numbers behind one stem are read back. -/
theorem repr_injective (stem : String) :
    Function.Injective fun n : UInt64 => stem ++ Nat.repr n.toNat := by
  intro k l h
  have hlist := congrArg String.toList h
  simp only [String.toList_append, Nat.toList_repr] at hlist
  have hdigits := List.append_cancel_left hlist
  have hk := Nat.ofDigitChars_ten_toDigits (n := k.toNat)
  rw [hdigits, Nat.ofDigitChars_ten_toDigits] at hk
  exact UInt64.toNat_inj.mp hk.symm

/-- No number is read where there is a character other than a digit. -/
theorem repr_ne (stem text : String) {c : Char} (hc : c ∈ text.toList)
    (hd : c.isDigit = false) (n : UInt64) : stem ++ Nat.repr n.toNat ≠ stem ++ text := by
  intro h
  have hlist := congrArg String.toList h
  rw [String.toList_append, String.toList_append, Nat.toList_repr] at hlist
  have hdigits := List.append_cancel_left hlist
  rw [← hdigits] at hc
  have hdigit := Nat.isDigit_of_mem_toDigits (by omega) (by omega) hc
  rw [hd] at hdigit
  cases hdigit

/-- The counter started at one, and these are the names of the numbers before its next one. -/
structure Issued (name : UInt64 → α) (next : UInt64) (names : List α) : Prop where
  next_eq : next = UInt64.ofNat (names.length + 1)
  names_eq : names = (List.range names.length).map fun k => name (UInt64.ofNat (k + 1))

namespace Issued

theorem initial : Issued name 1 [] := ⟨rfl, rfl⟩

theorem issue (h : Issued name next names) : Issued name (next + 1) (names ++ [name next]) where
  next_eq := by
    rw [List.length_append, List.length_singleton, UInt64.ofNat_add (names.length + 1),
      ← h.next_eq]
    rfl
  names_eq := by
    rw [List.length_append, List.length_singleton, List.range_succ, List.map_append,
      ← h.names_eq, h.next_eq]
    rfl

/-- While the counter does not wrap, the next name was not handed out before. -/
theorem fresh (h : Issued name next names) (hn : Function.Injective name)
    (hroom : names.length + 1 < 2 ^ 64) : name next ∉ names := by
  intro hmem
  rw [h.names_eq] at hmem
  obtain ⟨k, hk, he⟩ := List.mem_map.mp hmem
  have hlt := List.mem_range.mp hk
  have hsame := congrArg UInt64.toNat (hn he)
  have hk' : k + 1 < UInt64.size := Nat.lt_trans (by omega) hroom
  rw [h.next_eq, UInt64.toNat_ofNat_of_lt' hk', UInt64.toNat_ofNat_of_lt' hroom] at hsame
  omega

end Issued
end Numbering
