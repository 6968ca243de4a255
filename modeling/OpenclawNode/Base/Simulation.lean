import OpenclawNode.Base.Transition

/-! Traces of labelled transition systems, and systems that follow each other step by step. -/
namespace Transition.System

variable {σ τ α : Type*} {S : System σ α} {T : System τ α} {R : σ → τ → Prop}

/-- Steps one after another, with their labels. -/
inductive Trace (S : System σ α) : σ → List α → σ → Prop
  | nil (s : σ) : Trace S s [] s
  | snoc {s t u : σ} {as : List α} {a : α} : Trace S s as t → S.Step t a u →
      Trace S s (as ++ [a]) u

/-- Whatever the first system does from a related state, the second does under the same label. -/
def Simulates (T : System τ α) (S : System σ α) (R : σ → τ → Prop) : Prop :=
  ∀ s t a s', R s t → S.Step s a s' → ∃ t', T.Step t a t' ∧ R s' t'

theorem Simulates.trace (h : T.Simulates S R) {s s' : σ} {t : τ} {as : List α} (hr : R s t)
    (hs : S.Trace s as s') : ∃ t', T.Trace t as t' ∧ R s' t' := by
  induction hs with
  | nil => exact ⟨t, .nil t, hr⟩
  | snoc _ hstep ih =>
    obtain ⟨t', ht, hr'⟩ := ih
    obtain ⟨t'', hstep', hr''⟩ := h _ _ _ _ hr' hstep
    exact ⟨t'', ht.snoc hstep', hr''⟩

end Transition.System
