import Mathlib.Tactic

/-! Fixed-width unsigned big-endian integers as byte lists. -/
namespace BigEndian

abbrev Bytes := List UInt8

/-- The `width` low bytes of `n`, most significant byte first. -/
def encode : (width : Nat) → (n : Nat) → Bytes
  | 0, _ => []
  | width + 1, n => encode width (n / 256) ++ [UInt8.ofNat n]

/-- The number a byte list denotes, most significant byte first. -/
def decode (bytes : Bytes) : Nat := bytes.foldl (fun n b => n * 256 + b.toNat) 0

@[simp] theorem length_encode (width n : Nat) : (encode width n).length = width := by
  induction width generalizing n with
  | zero => rfl
  | succ width ih => simp [encode, ih]

theorem decode_snoc (bytes : Bytes) (b : UInt8) :
    decode (bytes ++ [b]) = decode bytes * 256 + b.toNat := by
  simp [decode]

theorem decode_encode (width n : Nat) : decode (encode width n) = n % 256 ^ width := by
  induction width generalizing n with
  | zero => simp [encode, decode, Nat.mod_one]
  | succ width ih =>
    rw [encode, decode_snoc, ih, UInt8.toNat_ofNat']
    have hm : n % 256 ^ (width + 1) = n % (256 * 256 ^ width) := by rw [pow_succ, Nat.mul_comm]
    rw [hm, Nat.mod_mul]
    omega

/-- Decoding inverts encoding on the numbers that fit the width. -/
theorem decode_encode_of_lt {width n : Nat} (h : n < 256 ^ width) :
    decode (encode width n) = n := by
  rw [decode_encode, Nat.mod_eq_of_lt h]

theorem decode_lt (bytes : Bytes) : decode bytes < 256 ^ bytes.length := by
  induction bytes using List.reverseRecOn with
  | nil => simp [decode]
  | append_singleton bytes b ih =>
    rw [decode_snoc, List.length_append, List.length_singleton, pow_succ]
    have hb := b.toNat_lt
    omega

/-- Every byte list is the encoding of the number it denotes. -/
theorem encode_decode (bytes : Bytes) : encode bytes.length (decode bytes) = bytes := by
  induction bytes using List.reverseRecOn with
  | nil => rfl
  | append_singleton bytes b ih =>
    have hb := b.toNat_lt
    rw [List.length_append, List.length_singleton, decode_snoc, encode]
    have hq : (decode bytes * 256 + b.toNat) / 256 = decode bytes := by omega
    have hr : UInt8.ofNat (decode bytes * 256 + b.toNat) = b := by
      apply UInt8.toNat_inj.mp
      rw [UInt8.toNat_ofNat']
      omega
    rw [hq, hr, ih]

theorem encode_injective {width m n : Nat} (hm : m < 256 ^ width) (hn : n < 256 ^ width)
    (h : encode width m = encode width n) : m = n := by
  rw [← decode_encode_of_lt hm, h, decode_encode_of_lt hn]

end BigEndian
