import Mathlib.Tactic

/-! A stream as the pieces in which its reads deliver it. -/
namespace Chunks

variable {α : Type*}

/-- `read_exact`: gather as many items, over as many reads as that takes. An empty piece is a read
that has to wait, and the end of the list is the end of the stream. -/
def readExact : Nat → List (List α) → Option (List α × List (List α))
  | 0, chunks => some ([], chunks)
  | _ + 1, [] => none
  | n + 1, chunk :: chunks =>
    if chunk.length ≤ n + 1 then
      (readExact (n + 1 - chunk.length) chunks).map fun r => (chunk ++ r.1, r.2)
    else some (chunk.take (n + 1), chunk.drop (n + 1) :: chunks)

/-- What is read depends on the stream alone, not on how it was cut. -/
theorem readExact_append {chunks : List (List α)} {a b : List α} (h : chunks.flatten = a ++ b) :
    ∃ rest, readExact a.length chunks = some (a, rest) ∧ rest.flatten = b := by
  induction chunks generalizing a with
  | nil =>
    obtain ⟨rfl, rfl⟩ := List.append_eq_nil_iff.mp h.symm
    exact ⟨[], rfl, rfl⟩
  | cons chunk chunks ih =>
    cases hn : a.length with
    | zero =>
      rw [List.length_eq_zero_iff.mp hn] at h ⊢
      exact ⟨chunk :: chunks, by simp [readExact], h⟩
    | succ n =>
      rw [List.flatten_cons] at h
      rw [readExact]
      by_cases hle : chunk.length ≤ n + 1
      · -- the piece ends within what is asked for
        obtain ⟨a', rfl, hrest⟩ : ∃ a', a = chunk ++ a' ∧ chunks.flatten = a' ++ b := by
          rcases List.append_eq_append_iff.mp h with ⟨a', ha, hb⟩ | ⟨c, hc, hb⟩
          · exact ⟨a', ha, hb⟩
          · have hnil : c = [] := by
              rw [hc, List.length_append, hn] at hle
              exact List.length_eq_zero_iff.mp (by omega)
            subst hnil
            exact ⟨[], by simpa using hc.symm, by simpa using hb.symm⟩
        obtain ⟨rest, hr, hflat⟩ := ih hrest
        have hleft : n + 1 - chunk.length = a'.length := by
          rw [← hn, List.length_append]
          omega
        exact ⟨rest, by rw [if_pos hle, hleft, hr]; rfl, hflat⟩
      · -- the piece goes on beyond it
        rcases List.append_eq_append_iff.mp h with ⟨a', ha, hb⟩ | ⟨c, hc, hb⟩
        · rw [ha, List.length_append] at hn
          omega
        · refine ⟨c :: chunks, ?_, by rw [List.flatten_cons, hb]⟩
          rw [if_neg hle, hc, ← hn, List.take_left, List.drop_left]

theorem readExact_of_lt {chunks : List (List α)} {n : Nat} (h : chunks.flatten.length < n) :
    readExact n chunks = none := by
  induction chunks generalizing n with
  | nil =>
    obtain ⟨n, rfl⟩ := Nat.exists_eq_succ_of_ne_zero (by omega : n ≠ 0)
    rfl
  | cons chunk chunks ih =>
    obtain ⟨n, rfl⟩ := Nat.exists_eq_succ_of_ne_zero (by omega : n ≠ 0)
    rw [List.flatten_cons, List.length_append] at h
    rw [readExact, if_pos (by omega), ih (by omega)]
    rfl

end Chunks
