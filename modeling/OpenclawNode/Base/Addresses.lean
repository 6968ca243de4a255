import Mathlib.Data.Nat.Bitwise

/-! Blocks of network addresses, and the zones that a host name lies in. -/
namespace Addresses

/-- Masking an address of `w` bits with the mask that leaves out the last `h` of them. -/
theorem and_mask {w h a : Nat} (hh : h ≤ w) (ha : a < 2 ^ w) :
    a &&& (2 ^ w - 2 ^ h) = a / 2 ^ h * 2 ^ h := by
  have hmask : 2 ^ w - 2 ^ h = (2 ^ (w - h) - 1) * 2 ^ h := by
    rw [Nat.sub_mul, ← pow_add, Nat.sub_add_cancel hh, one_mul]
  rw [hmask]
  refine Nat.eq_of_testBit_eq fun i => ?_
  rw [Nat.testBit_and, Nat.testBit_mul_two_pow, Nat.testBit_mul_two_pow,
    Nat.testBit_two_pow_sub_one, Nat.testBit_div_two_pow]
  by_cases hi : h ≤ i
  · have hback : i - h + h = i := Nat.sub_add_cancel hi
    by_cases hw : i < w
    · simp [hi, hback]
      omega
    · have hpow : 2 ^ w ≤ 2 ^ i := Nat.pow_le_pow_right (by decide) (not_lt.mp hw)
      have hclear : a.testBit i = false := Nat.testBit_lt_two_pow (lt_of_lt_of_le ha hpow)
      simp [hback, hclear]
  · simp [hi]

/-- The addresses of `w` bits whose leading bits are those of a network. No bit of the network
stands after its prefix. -/
structure Block (w : Nat) where
  network : Nat
  prefixLength : Nat
  prefixLength_le : prefixLength ≤ w
  clear : 2 ^ (w - prefixLength) ∣ network

namespace Block

variable {v w a q : Nat} {b : Block w}

/-- The leading bits agree. -/
def Contains (b : Block w) (a : Nat) : Prop :=
  ∀ i, w - b.prefixLength ≤ i → a.testBit i = b.network.testBit i

theorem contains_iff_div :
    b.Contains a ↔ a / 2 ^ (w - b.prefixLength) = b.network / 2 ^ (w - b.prefixLength) := by
  constructor
  · intro h
    refine Nat.eq_of_testBit_eq fun i => ?_
    rw [Nat.testBit_div_two_pow, Nat.testBit_div_two_pow]
    exact h _ (Nat.le_add_left _ i)
  · intro h i hi
    have hbit := congrArg (·.testBit (i - (w - b.prefixLength))) h
    simp only [Nat.testBit_div_two_pow] at hbit
    rwa [Nat.sub_add_cancel hi] at hbit

/-- The block of longer addresses whose first `v` bits are `p`. -/
def under (b : Block w) (v p : Nat) : Block (v + w) where
  network := p * 2 ^ w + b.network
  prefixLength := v + b.prefixLength
  prefixLength_le := Nat.add_le_add_left b.prefixLength_le v
  clear := by
    rw [Nat.add_sub_add_left]
    have hdvd : 2 ^ (w - b.prefixLength) ∣ 2 ^ w := Nat.pow_dvd_pow 2 (Nat.sub_le _ _)
    exact Nat.dvd_add (hdvd.mul_left p) b.clear

/-- An address lies there when its first bits are those, and the rest lies in the block. -/
theorem under_contains {p : Nat} (ha : a < 2 ^ w) (hn : b.network < 2 ^ w) :
    (b.under v p).Contains (q * 2 ^ w + a) ↔ q = p ∧ b.Contains a := by
  have hlength : v + w - (b.under v p).prefixLength = w - b.prefixLength :=
    Nat.add_sub_add_left v w b.prefixLength
  have hbit : ∀ x y i, x < 2 ^ w →
      (y * 2 ^ w + x).testBit i = if i < w then x.testBit i else y.testBit (i - w) := by
    intro x y i hx
    rw [mul_comm, Nat.testBit_two_pow_mul_add y hx]
  constructor
  · intro h
    refine ⟨Nat.eq_of_testBit_eq fun i => ?_, fun i hi => ?_⟩
    · have hi := h (i + w) (by omega)
      rw [hbit a q _ ha, show (b.under v p).network = p * 2 ^ w + b.network from rfl,
        hbit _ p _ hn] at hi
      rwa [if_neg (by omega), if_neg (by omega), Nat.add_sub_cancel] at hi
    · by_cases hw : i < w
      · have hi := h i (hlength ▸ hi)
        rw [hbit a q _ ha, show (b.under v p).network = p * 2 ^ w + b.network from rfl,
          hbit _ p _ hn] at hi
        simpa [hw] using hi
      · have hpow : 2 ^ w ≤ 2 ^ i := Nat.pow_le_pow_right (by decide) (not_lt.mp hw)
        rw [Nat.testBit_lt_two_pow (lt_of_lt_of_le ha hpow),
          Nat.testBit_lt_two_pow (lt_of_lt_of_le hn hpow)]
  · rintro ⟨rfl, h⟩ i hi
    rw [hbit a q _ ha, show (b.under v q).network = q * 2 ^ w + b.network from rfl,
      hbit _ q _ hn]
    split
    · exact h i (hlength ▸ hi)
    · rfl

end Block

variable {α : Type} [BEq α] [LawfulBEq α] {dot : α} {host : List α} {zone : List (List α)}

/-- The labels of a host end in those of a zone, and there are others before them. -/
def Within (dot : α) (zone : List (List α)) (host : List α) : Prop :=
  ∃ labels, labels ≠ [] ∧ host.splitOn dot = labels ++ zone

omit [BEq α] [LawfulBEq α] in
theorem intercalate_append {labels : List (List α)} (hl : labels ≠ []) (hz : zone ≠ []) :
    [dot].intercalate (labels ++ zone) =
      [dot].intercalate labels ++ dot :: [dot].intercalate zone := by
  induction labels with
  | nil => exact absurd rfl hl
  | cons l labels ih =>
    rw [List.cons_append]
    cases labels with
    | nil => simp [List.intercalate_cons_of_ne_nil hz]
    | cons l' labels =>
      rw [List.intercalate_cons_of_ne_nil (by simp), ih (by simp), List.intercalate_cons_cons]
      simp

/-- A host lies within a zone when its text ends in a dot and the text of the zone. -/
theorem suffix_iff_within (hz : zone ≠ []) (hdot : ∀ l ∈ zone, dot ∉ l) :
    dot :: [dot].intercalate zone <:+ host ↔ Within dot zone host := by
  constructor
  · rintro ⟨front, rfl⟩
    refine ⟨front.splitOn dot, List.splitOn_ne_nil _ _, ?_⟩
    rw [List.splitOn_append_cons_self, List.splitOn_intercalate dot hdot hz]
  · rintro ⟨labels, hl, h⟩
    refine ⟨[dot].intercalate labels, ?_⟩
    rw [← intercalate_append hl hz, ← h, List.intercalate_splitOn]

end Addresses
