import OpenclawNode.Base.BigEndian

/-! UTF-8 bytes, Unicode whitespace and trimming. -/
namespace Text

open BigEndian (Bytes)

/-- The UTF-8 bytes of a string. -/
def utf8 (s : String) : Bytes := s.toByteArray.data.toList

theorem utf8_injective : Function.Injective utf8 := by
  intro s t h
  apply String.toByteArray_inj.mp
  exact ByteArray.ext (Array.toList_inj.mp h)

theorem utf8_ofList (cs : List Char) :
    utf8 (String.ofList cs) = cs.flatMap String.utf8EncodeChar := by
  simp [utf8, List.utf8Encode]

theorem length_utf8_ofList (cs : List Char) :
    (utf8 (String.ofList cs)).length = (cs.map Char.utf8Size).sum := by
  rw [utf8_ofList, List.length_flatMap]
  simp only [String.length_utf8EncodeChar]

/-- Every character takes at least one byte. -/
theorem length_le_utf8 (s : String) : s.toList.length ≤ (utf8 s).length := by
  have hs := length_utf8_ofList s.toList
  rw [String.ofList_toList] at hs
  rw [hs]
  clear hs
  induction s.toList with
  | nil => simp
  | cons c cs ih =>
    have hc := Char.utf8Size_pos c
    simp only [List.length_cons, List.map_cons, List.sum_cons]
    omega

/-- A string of characters below 128 has as many bytes as characters. -/
theorem length_utf8_of_ascii {s : String} (h : ∀ c ∈ s.toList, c.toNat < 128) :
    (utf8 s).length = s.toList.length := by
  have hs := length_utf8_ofList s.toList
  rw [String.ofList_toList] at hs
  rw [hs]
  clear hs
  revert h
  induction s.toList with
  | nil => exact fun _ => rfl
  | cons c cs ih =>
    intro h
    have hc : c.utf8Size = 1 := by
      rw [Char.utf8Size_eq_one_iff, UInt32.le_iff_toNat_le]
      exact Nat.le_of_lt_succ (h c List.mem_cons_self)
    have ih := ih fun d hd => h d (List.mem_cons_of_mem _ hd)
    simp only [List.length_cons, List.map_cons, List.sum_cons, hc, ih]
    omega

/-- The code points with the Unicode property `White_Space`. -/
def isWhitespace (c : Char) : Bool :=
  (0x09 ≤ c.toNat && c.toNat ≤ 0x0d) || c.toNat == 0x20 || c.toNat == 0x85 || c.toNat == 0xa0 ||
    c.toNat == 0x1680 || (0x2000 ≤ c.toNat && c.toNat ≤ 0x200a) || c.toNat == 0x2028 ||
    c.toNat == 0x2029 || c.toNat == 0x202f || c.toNat == 0x205f || c.toNat == 0x3000

/-- Drop whitespace at both ends. -/
def trimChars (cs : List Char) : List Char :=
  ((cs.dropWhile isWhitespace).reverse.dropWhile isWhitespace).reverse

def trim (s : String) : String := String.ofList (trimChars s.toList)

theorem trimChars_of_none {cs : List Char} (h : ∀ c ∈ cs, isWhitespace c = false) :
    trimChars cs = cs := by
  have hdrop : ∀ ds : List Char, (∀ c ∈ ds, isWhitespace c = false) →
      ds.dropWhile isWhitespace = ds := by
    intro ds hds
    cases ds with
    | nil => rfl
    | cons d ds => simp [List.dropWhile, hds d (by simp)]
  rw [trimChars, hdrop cs h, hdrop cs.reverse (by simpa using h), List.reverse_reverse]

/-- A string without whitespace is its own trimming. -/
theorem trim_of_none {s : String} (h : ∀ c ∈ s.toList, isWhitespace c = false) : trim s = s := by
  rw [trim, trimChars_of_none h, String.ofList_toList]

end Text
