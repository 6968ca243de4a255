import OpenclawNode.Base.Text

/-! The words of a text, a text of a single word, and the text that bytes are of. -/
namespace Text

open BigEndian (Bytes)

/-- `str::from_utf8`. -/
def fromUtf8 (bytes : Bytes) : Option String := String.fromUTF8? ⟨bytes.toArray⟩

theorem fromUtf8_eq_some {bytes : Bytes} {text : String} :
    fromUtf8 bytes = some text ↔ utf8 text = bytes := by
  unfold fromUtf8 String.fromUTF8?
  constructor
  · intro h
    split at h
    · cases h
      simp [utf8, String.fromUTF8]
    · cases h
  · rintro rfl
    have hbytes : (⟨(utf8 text).toArray⟩ : ByteArray) = text.toByteArray := by simp [utf8]
    rw [hbytes, dif_pos text.isValidUTF8]
    rfl

/-- The maximal runs without whitespace. -/
def words (cs : List Char) : List (List Char) := (cs.splitOnP isWhitespace).filter (· ≠ [])

end Text
