import OpenclawNode.Base.BigEndian

/-! Bytes as hexadecimal text. -/
namespace Hex

open BigEndian (Bytes)

/-- The ASCII code of a digit, in lower case. -/
def digit (n : UInt8) : UInt8 := if n < 10 then 48 + n else 87 + n

/-- Each byte as two digits. -/
def encode (bytes : Bytes) : Bytes := bytes.flatMap fun b => [digit (b / 16), digit (b % 16)]

/-- The value of a digit in either case. -/
def value (code : UInt8) : Option UInt8 :=
  if 48 ≤ code ∧ code ≤ 57 then some (code - 48)
  else if 97 ≤ code ∧ code ≤ 102 then some (code - 87)
  else if 65 ≤ code ∧ code ≤ 70 then some (code - 55)
  else none

/-- `u8::to_ascii_lowercase`. -/
def toAsciiLowercase (code : UInt8) : UInt8 := if 65 ≤ code ∧ code ≤ 90 then code + 32 else code

theorem value_eq_some_iff {code n : UInt8} (hn : n < 16) :
    value code = some n ↔ toAsciiLowercase code = digit n := by
  have hall : ∀ (c : Fin 256) (k : Fin 16),
      value (UInt8.ofNat c) = some (UInt8.ofNat k) ↔
        toAsciiLowercase (UInt8.ofNat c) = digit (UInt8.ofNat k) := by decide +kernel
  have h := hall ⟨code.toNat, code.toNat_lt⟩ ⟨n.toNat, UInt8.lt_iff_toNat_lt.mp hn⟩
  simpa using h

theorem value_lt {code n : UInt8} (h : value code = some n) : n < 16 := by
  have hall : ∀ c : Fin 256, ∀ m ∈ value (UInt8.ofNat c), m < 16 := by decide +kernel
  exact hall ⟨code.toNat, code.toNat_lt⟩ n (by simpa using h)

theorem digits_injective {a b : UInt8} (hhigh : a / 16 = b / 16) (hlow : a % 16 = b % 16) :
    a = b := by
  rw [← UInt8.toNat_inj] at *
  simp at hhigh hlow
  omega

theorem digit_injective {m n : UInt8} (hm : m < 16) (hn : n < 16) (h : digit m = digit n) :
    m = n := by
  have hall : ∀ m n : Fin 16, digit (UInt8.ofNat m) = digit (UInt8.ofNat n) → m = n := by decide
  have heq := hall ⟨m.toNat, UInt8.lt_iff_toNat_lt.mp hm⟩ ⟨n.toNat, UInt8.lt_iff_toNat_lt.mp hn⟩
    (by simpa using h)
  exact UInt8.toNat_inj.mp (Fin.mk.inj heq)

theorem div_lt (b : UInt8) : b / 16 < 16 := by
  have h := b.toNat_lt
  rw [UInt8.lt_iff_toNat_lt]
  simp
  omega

theorem mod_lt (b : UInt8) : b % 16 < 16 := by
  rw [UInt8.lt_iff_toNat_lt]
  simp
  omega

theorem encode_injective : Function.Injective encode := by
  intro xs ys h
  induction xs generalizing ys with
  | nil =>
    cases ys with
    | nil => rfl
    | cons y ys => cases h
  | cons x xs ih =>
    cases ys with
    | nil => cases h
    | cons y ys =>
      obtain ⟨hhigh, hlow, hrest⟩ : digit (x / 16) = digit (y / 16) ∧
          digit (x % 16) = digit (y % 16) ∧ encode xs = encode ys := by
        simpa [encode] using h
      have hbyte : x = y := digits_injective (digit_injective (div_lt x) (div_lt y) hhigh)
        (digit_injective (mod_lt x) (mod_lt y) hlow)
      rw [hbyte, ih hrest]

/-- A text is that of some bytes when its pairs of digits are theirs. -/
theorem eq_encode_iff {text bytes : Bytes} :
    text = encode bytes ↔ text.length = 2 * bytes.length ∧
      ∀ i (h : i < bytes.length), text[2 * i]? = some (digit (bytes[i] / 16)) ∧
        text[2 * i + 1]? = some (digit (bytes[i] % 16)) := by
  induction bytes generalizing text with
  | nil => simp [encode]
  | cons b bytes ih =>
    constructor
    · rintro rfl
      obtain ⟨hlength, hdigits⟩ := ih.mp (rfl : encode bytes = encode bytes)
      have hcons : encode (b :: bytes) = digit (b / 16) :: digit (b % 16) :: encode bytes := rfl
      rw [hcons]
      refine ⟨by simp [hlength]; omega, fun i hi => ?_⟩
      cases i with
      | zero => exact ⟨rfl, rfl⟩
      | succ i => exact hdigits i (Nat.lt_of_succ_lt_succ hi)
    · rintro ⟨hlength, hdigits⟩
      match text, hlength with
      | high :: low :: rest, hlength =>
        have hfirst := hdigits 0 (Nat.zero_lt_succ _)
        have hrest : rest = encode bytes := ih.mpr ⟨by simp at hlength; omega,
          fun i hi => hdigits (i + 1) (Nat.succ_lt_succ hi)⟩
        obtain ⟨hhigh, hlow⟩ := hfirst
        cases hhigh
        cases hlow
        rw [hrest]
        rfl

end Hex
