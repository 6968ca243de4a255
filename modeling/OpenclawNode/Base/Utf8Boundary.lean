import OpenclawNode.Base.Text

/-! Where the characters of an encoded text begin and end. -/
namespace Utf8

open BigEndian (Bytes)

variable {c : Char} {cs : List Char} {n maximum : Nat}

def encode (cs : List Char) : Bytes := cs.flatMap String.utf8EncodeChar

/-- How many bytes a text takes. -/
def size (cs : List Char) : Nat := (cs.map Char.utf8Size).sum

@[simp] theorem size_nil : size [] = 0 := rfl

@[simp] theorem size_cons (c : Char) (cs : List Char) : size (c :: cs) = c.utf8Size + size cs := by
  rw [size, List.map_cons, List.sum_cons, size]

theorem size_append (cs ds : List Char) : size (cs ++ ds) = size cs + size ds := by
  rw [size, List.map_append, List.sum_append, size, size]

theorem size_replicate (n : Nat) (c : Char) : size (List.replicate n c) = n * c.utf8Size := by
  rw [size, List.map_replicate, List.sum_replicate, smul_eq_mul]

theorem encode_cons (c : Char) (cs : List Char) :
    encode (c :: cs) = String.utf8EncodeChar c ++ encode cs := List.flatMap_cons

theorem length_encode (cs : List Char) : (encode cs).length = size cs := by
  rw [encode, List.length_flatMap]
  simp only [String.length_utf8EncodeChar, size]

/-- Whether a byte begins a character. -/
def beginsChar (b : UInt8) : Bool := b.toNat < 128 || 192 ≤ b.toNat

/-- Whether an index is where a character begins, or at the end. -/
def isCharBoundary (bytes : Bytes) (index : Nat) : Bool :=
  if index = 0 then true
  else
    match bytes[index]? with
    | none => index = bytes.length
    | some b => beginsChar b

/-- The greatest boundary that is not above an index. -/
def lastBoundary (bytes : Bytes) : Nat → Nat
  | 0 => 0
  | split + 1 => if isCharBoundary bytes (split + 1) then split + 1 else lastBoundary bytes split

/-- The first byte of a character begins it and no other byte of it does. -/
theorem utf8EncodeChar_cons (c : Char) : ∃ b bs, String.utf8EncodeChar c = b :: bs ∧
    beginsChar b = true ∧ ∀ d ∈ bs, beginsChar d = false := by
  have hc : c.val.toNat < 0x110000 := by
    have h := c.valid
    rw [UInt32.isValidChar, Nat.isValidChar] at h
    omega
  have hbegins : ∀ k : Nat, k < 128 ∨ 192 ≤ k ∧ k < 256 → beginsChar (UInt8.ofNat k) = true := by
    intro k hk
    simp only [beginsChar, UInt8.toNat_ofNat', Bool.or_eq_true, decide_eq_true_eq]
    omega
  have hfollows : ∀ k : Nat, beginsChar (UInt8.ofNat (k % 0x40 + 0x80)) = false := by
    intro k
    simp only [beginsChar, UInt8.toNat_ofNat', Bool.or_eq_false_iff, decide_eq_false_iff_not]
    omega
  have hmem : ∀ (bs : List UInt8), (∀ d ∈ bs, ∃ k : Nat, d = UInt8.ofNat (k % 0x40 + 0x80)) →
      ∀ d ∈ bs, beginsChar d = false := by
    intro bs hbs d hd
    obtain ⟨k, rfl⟩ := hbs d hd
    exact hfollows k
  generalize hv : c.val.toNat = v at hc
  rw [String.utf8EncodeChar]
  simp only [hv]
  split
  · refine ⟨_, _, rfl, hbegins v (by omega), ?_⟩
    simp
  · split
    · refine ⟨_, _, rfl, hbegins (v / 64 % 0x20 + 0xc0) (by omega), hmem _ ?_⟩
      simp only [List.forall_mem_cons]
      exact ⟨⟨v, rfl⟩, by simp⟩
    · split
      · refine ⟨_, _, rfl, hbegins (v / 4096 % 0x10 + 0xe0) (by omega), hmem _ ?_⟩
        simp only [List.forall_mem_cons]
        exact ⟨⟨v / 64, rfl⟩, ⟨v, rfl⟩, by simp⟩
      · refine ⟨_, _, rfl, hbegins (v / 262144 % 0x08 + 0xf0) (by omega), hmem _ ?_⟩
        simp only [List.forall_mem_cons]
        exact ⟨⟨v / 4096, rfl⟩, ⟨v / 64, rfl⟩, ⟨v, rfl⟩, by simp⟩

/-- Inside a character there is no boundary. -/
theorem isCharBoundary_inside (hn : 0 < n) (hlt : n < c.utf8Size) :
    isCharBoundary (encode (c :: cs)) n = false := by
  obtain ⟨b, bs, hc, _, hbs⟩ := utf8EncodeChar_cons c
  have hlength : (b :: bs).length = c.utf8Size := by rw [← hc, String.length_utf8EncodeChar]
  have hbyte : (encode (c :: cs))[n]? = bs[n - 1]? := by
    rw [encode_cons, hc, List.getElem?_append_left (by omega)]
    obtain ⟨m, rfl⟩ : ∃ m, n = m + 1 := ⟨n - 1, by omega⟩
    rfl
  rw [List.length_cons] at hlength
  rw [isCharBoundary, if_neg (by omega), hbyte, List.getElem?_eq_getElem (by omega)]
  exact hbs _ (List.getElem_mem _)

/-- Behind a character the boundaries are those of the rest. -/
theorem isCharBoundary_behind (hle : c.utf8Size ≤ n) :
    isCharBoundary (encode (c :: cs)) n = isCharBoundary (encode cs) (n - c.utf8Size) := by
  have hpos := c.utf8Size_pos
  have hlength := String.length_utf8EncodeChar c
  have hbyte : (encode (c :: cs))[n]? = (encode cs)[n - c.utf8Size]? := by
    rw [encode_cons, List.getElem?_append_right (by omega), hlength]
  have htotal : (encode (c :: cs)).length = c.utf8Size + (encode cs).length := by
    rw [encode_cons, List.length_append, hlength]
  rw [isCharBoundary, if_neg (by omega), hbyte, isCharBoundary]
  by_cases hn : n - c.utf8Size = 0
  · -- The rest begins with a character, or there is none.
    rw [hn, if_pos rfl]
    cases cs with
    | nil =>
      have hempty : (encode ([] : List Char))[0]? = none := rfl
      rw [hempty]
      have hlength : (encode ([] : List Char)).length = 0 := rfl
      exact decide_eq_true (by omega)
    | cons d ds =>
      obtain ⟨b, bs, hd, hb, _⟩ := utf8EncodeChar_cons d
      rw [encode_cons d, hd]
      exact hb
  · rw [if_neg hn]
    cases (encode cs)[n - c.utf8Size]? with
    | none => exact decide_eq_decide.mpr (by omega)
    | some b => rfl

/-- The boundaries are the ends of the texts that begin a text. -/
theorem isCharBoundary_iff :
    isCharBoundary (encode cs) n = true ↔ ∃ k, k ≤ cs.length ∧ n = size (cs.take k) := by
  induction cs generalizing n with
  | nil =>
    constructor
    · intro h
      by_cases hn : n = 0
      · exact ⟨0, Nat.le_refl 0, hn⟩
      · rw [isCharBoundary, if_neg hn] at h
        exact absurd (of_decide_eq_true h) hn
    · rintro ⟨k, _, rfl⟩
      rw [List.take_nil]
      rfl
  | cons c cs ih =>
    by_cases hn : n = 0
    · exact ⟨fun _ => ⟨0, Nat.zero_le _, hn⟩, fun _ => by rw [isCharBoundary, if_pos hn]⟩
    · by_cases hlt : n < c.utf8Size
      · rw [isCharBoundary_inside (by omega) hlt]
        constructor
        · exact fun h => by cases h
        · rintro ⟨k, _, hk⟩
          cases k with
          | zero => exact absurd hk hn
          | succ k =>
            rw [List.take_succ_cons, size_cons] at hk
            omega
      · rw [isCharBoundary_behind (by omega), ih]
        constructor
        · rintro ⟨k, hk, he⟩
          refine ⟨k + 1, Nat.succ_le_succ hk, ?_⟩
          rw [List.take_succ_cons, size_cons]
          omega
        · rintro ⟨k, hk, he⟩
          cases k with
          | zero => exact absurd he hn
          | succ k =>
            rw [List.take_succ_cons, size_cons] at he
            exact ⟨k, Nat.le_of_succ_le_succ hk, by omega⟩

theorem lastBoundary_le (bytes : Bytes) (maximum : Nat) : lastBoundary bytes maximum ≤ maximum := by
  induction maximum with
  | zero => exact Nat.le_refl 0
  | succ maximum ih =>
    rw [lastBoundary]
    split
    · exact Nat.le_refl _
    · omega

theorem isCharBoundary_lastBoundary (bytes : Bytes) (maximum : Nat) :
    isCharBoundary bytes (lastBoundary bytes maximum) = true := by
  induction maximum with
  | zero => rfl
  | succ maximum ih =>
    rw [lastBoundary]
    split
    · assumption
    · exact ih

theorem le_lastBoundary {bytes : Bytes} (h : isCharBoundary bytes n = true) (hle : n ≤ maximum) :
    n ≤ lastBoundary bytes maximum := by
  induction maximum with
  | zero => exact hle
  | succ maximum ih =>
    rw [lastBoundary]
    split
    · exact hle
    · next hnot =>
      have hne : n ≠ maximum + 1 := by
        rintro rfl
        exact hnot h
      exact ih (by omega)

end Utf8
