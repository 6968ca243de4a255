import Mathlib.Data.List.Basic

/-! Reading a stream into a bounded buffer until a delimiter has come. -/
namespace Chunks

variable {α ε : Type*} [DecidableEq α] {sep : α} {capacity : Nat} {buffer : List α}
  {chunks : List (List α)} {rest : List (Except ε (List α))}

inductive ReadError (ε : Type*)
  | tooLong
  | failed (error : ε)
  deriving DecidableEq, Repr

/-- What was read when the delimiter came or the stream ended, or why it was given up, and nothing
when more is awaited. An empty piece is the end of the stream. -/
def readUntil (sep : α) (capacity : Nat) (buffer : List α) :
    List (Except ε (List α)) → Option (Except (ReadError ε) (List α))
  | [] => if buffer.length < capacity then none else some (.error .tooLong)
  | piece :: rest =>
    if buffer.length < capacity then
      match piece with
      | .error error => some (.error (.failed error))
      | .ok [] => some (.ok buffer)
      | .ok (x :: chunk) =>
        let read := buffer ++ (x :: chunk).take (capacity - buffer.length)
        if sep ∈ read then some (.ok read) else readUntil sep capacity read rest
    else some (.error .tooLong)

theorem readUntil_full (h : capacity ≤ buffer.length) :
    readUntil sep capacity buffer rest = some (.error .tooLong) := by
  cases rest with
  | nil => exact if_neg (Nat.not_lt.mpr h)
  | cons piece rest => exact if_neg (Nat.not_lt.mpr h)

/-- A piece that comes is buffered, as far as there is room. -/
theorem readUntil_piece {chunk : List α} (hc : chunk ≠ []) (hlt : buffer.length < capacity) :
    readUntil sep capacity buffer (.ok chunk :: rest) =
      if sep ∈ buffer ++ chunk.take (capacity - buffer.length) then
        some (.ok (buffer ++ chunk.take (capacity - buffer.length)))
      else readUntil sep capacity (buffer ++ chunk.take (capacity - buffer.length)) rest := by
  cases chunk with
  | nil => exact absurd rfl hc
  | cons x chunk =>
    rw [readUntil]
    exact if_pos hlt

/-- As long as it fits, a stream in which the delimiter comes is read to the end of the piece that
the delimiter comes in, and no further than there is room. -/
theorem readUntil_of_mem (hc : ∀ chunk ∈ chunks, chunk ≠ []) (hb : sep ∉ buffer)
    (hm : sep ∈ (buffer ++ chunks.flatten).take capacity) :
    ∃ before chunk after, chunks = before ++ chunk :: after ∧ sep ∉ before.flatten ∧
      sep ∈ (buffer ++ before.flatten ++ chunk).take capacity ∧
      readUntil sep capacity buffer (chunks.map .ok ++ rest) =
        some (.ok ((buffer ++ before.flatten ++ chunk).take capacity)) := by
  have hlt : buffer.length < capacity := by
    by_contra hle
    rw [List.take_append_of_le_length (by omega)] at hm
    exact hb (List.mem_of_mem_take hm)
  induction chunks generalizing buffer with
  | nil =>
    rw [List.flatten_nil, List.append_nil] at hm
    exact absurd (List.mem_of_mem_take hm) hb
  | cons chunk chunks ih =>
    have htake : buffer ++ chunk.take (capacity - buffer.length) =
        (buffer ++ chunk).take capacity := by
      rw [List.take_append, List.take_of_length_le (Nat.le_of_lt hlt)]
    rw [List.map_cons, List.cons_append, readUntil_piece (hc chunk List.mem_cons_self) hlt, htake]
    by_cases hread : sep ∈ (buffer ++ chunk).take capacity
    · rw [if_pos hread]
      refine ⟨[], chunk, chunks, rfl, List.not_mem_nil, ?_, ?_⟩ <;>
        rw [List.flatten_nil, List.append_nil]
      exact hread
    · rw [if_neg hread]
      have hlt' : (buffer ++ chunk).length < capacity := by
        by_contra hle
        rw [List.flatten_cons, ← List.append_assoc, List.take_append_of_le_length (by omega)] at hm
        exact hread hm
      rw [List.take_of_length_le (Nat.le_of_lt hlt')] at hread ⊢
      rw [List.flatten_cons, ← List.append_assoc] at hm
      obtain ⟨before, piece, after, rfl, hbefore, hmem, hgot⟩ :=
        ih (fun c h => hc c (List.mem_cons_of_mem chunk h)) hread hm hlt'
      refine ⟨chunk :: before, piece, after, rfl, ?_, ?_, ?_⟩
      · rw [List.flatten_cons, List.mem_append]
        rintro (h | h)
        · exact hread (List.mem_append_right buffer h)
        · exact hbefore h
      · rw [List.flatten_cons, ← List.append_assoc]
        exact hmem
      · rw [List.flatten_cons, ← List.append_assoc]
        exact hgot

/-- Without the delimiter in what fits, the whole stream is buffered, or it is too long. -/
theorem readUntil_of_not_mem (hc : ∀ chunk ∈ chunks, chunk ≠ [])
    (hb : buffer.length ≤ capacity)
    (hm : sep ∉ (buffer ++ chunks.flatten).take capacity) :
    readUntil sep capacity buffer (chunks.map .ok ++ rest) =
      if capacity ≤ (buffer ++ chunks.flatten).length then some (.error .tooLong)
      else readUntil sep capacity (buffer ++ chunks.flatten) rest := by
  induction chunks generalizing buffer with
  | nil =>
    rw [List.flatten_nil, List.append_nil, List.map_nil, List.nil_append]
    split
    · next hle => exact readUntil_full hle
    · rfl
  | cons chunk chunks ih =>
    rw [List.map_cons, List.cons_append]
    by_cases hlt : buffer.length < capacity
    · have htake : (buffer ++ chunk.take (capacity - buffer.length)) =
          (buffer ++ chunk).take capacity := by
        rw [List.take_append, List.take_of_length_le hb]
      have hread : sep ∉ buffer ++ chunk.take (capacity - buffer.length) := by
        intro hmem
        rw [htake] at hmem
        apply hm
        rw [List.flatten_cons, ← List.append_assoc, List.take_append]
        exact List.mem_append_left _ hmem
      rw [readUntil_piece (hc chunk List.mem_cons_self) hlt, if_neg hread]
      by_cases hfits : chunk.length ≤ capacity - buffer.length
      · rw [List.take_of_length_le hfits]
        rw [List.flatten_cons, ← List.append_assoc] at hm ⊢
        exact ih (fun c h => hc c (List.mem_cons_of_mem chunk h))
          (by rw [List.length_append]; omega) hm
      · rw [readUntil_full (by rw [List.length_append, List.length_take]; omega), if_pos]
        rw [List.flatten_cons, List.length_append, List.length_append]
        omega
    · rw [readUntil_full (by omega), if_pos]
      rw [List.length_append]
      omega

end Chunks
