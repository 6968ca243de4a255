import Mathlib.Logic.Relation

/-! Labelled transition systems, their reachable states and the induction rules for runs. -/
namespace Transition

/-- A transition system over states `σ` whose steps carry labels in `α`. -/
structure System (σ α : Type*) where
  Initial : σ → Prop
  Step : σ → α → σ → Prop

namespace System

variable {σ α β : Type*} {S : System σ α} {s t u : σ} {a : α}

/-- Some labelled step leads from the first state to the second. -/
def Next (S : System σ α) (s t : σ) : Prop := ∃ a, S.Step s a t

/-- Zero or more steps. -/
def Run (S : System σ α) : σ → σ → Prop := Relation.ReflTransGen S.Next

def Reachable (S : System σ α) (s : σ) : Prop := ∃ s₀, S.Initial s₀ ∧ S.Run s₀ s

theorem Run.refl (s : σ) : S.Run s s := Relation.ReflTransGen.refl

theorem Run.snoc (h : S.Run s t) (hs : S.Step t a u) : S.Run s u :=
  Relation.ReflTransGen.tail h ⟨a, hs⟩

theorem Run.trans (h : S.Run s t) (h' : S.Run t u) : S.Run s u :=
  Relation.ReflTransGen.trans h h'

theorem Run.single (hs : S.Step s a t) : S.Run s t := (Run.refl s).snoc hs

theorem Reachable.initial (h : S.Initial s) : S.Reachable s := ⟨s, h, Run.refl s⟩

theorem Reachable.step (h : S.Reachable s) (hs : S.Step s a t) : S.Reachable t := by
  obtain ⟨s₀, hi, hr⟩ := h
  exact ⟨s₀, hi, hr.snoc hs⟩

theorem Reachable.run (h : S.Reachable s) (hr : S.Run s t) : S.Reachable t := by
  obtain ⟨s₀, hi, hr₀⟩ := h
  exact ⟨s₀, hi, hr₀.trans hr⟩

/-- What every step preserves, a run preserves. -/
theorem Run.stable {P : σ → Prop} (hP : ∀ s a t, S.Step s a t → P s → P t)
    (h : S.Run s t) (hs : P s) : P t := by
  induction h with
  | refl => exact hs
  | tail _ hn ih =>
    obtain ⟨a, ha⟩ := hn
    exact hP _ a _ ha ih

/-- A reflexive and transitive relation that every step respects relates the ends of a run. -/
theorem Run.relates {R : σ → σ → Prop} (hr : ∀ s, R s s) (ht : ∀ s t u, R s t → R t u → R s u)
    (hs : ∀ s a t, S.Step s a t → R s t) (h : S.Run s t) : R s t := by
  induction h with
  | refl => exact hr _
  | tail _ hn ih =>
    obtain ⟨a, ha⟩ := hn
    exact ht _ _ _ ih (hs _ a _ ha)

/-- The invariant rule: an invariant of the initial states that every step preserves. -/
theorem Reachable.invariant {P : σ → Prop} (hi : ∀ s, S.Initial s → P s)
    (hs : ∀ s a t, S.Step s a t → P s → P t) (h : S.Reachable s) : P s := by
  obtain ⟨s₀, h₀, hr⟩ := h
  exact hr.stable hs (hi s₀ h₀)

/-- The invariant rule where the step may use that its source is reachable. -/
theorem Reachable.invariant_of_reachable {P : σ → Prop} (hi : ∀ s, S.Initial s → P s)
    (hs : ∀ s a t, S.Reachable s → S.Step s a t → P s → P t) (h : S.Reachable s) : P s := by
  have hp : S.Reachable s ∧ P s := by
    refine Reachable.invariant (P := fun s => S.Reachable s ∧ P s) ?_ ?_ h
    · intro s₀ h₀
      exact ⟨Reachable.initial h₀, hi s₀ h₀⟩
    · intro s a t hst hp
      exact ⟨hp.1.step hst, hs s a t hp.1 hst hp.2⟩
  exact hp.2

/-- A system whose initial states and steps are also those of another reaches no more. -/
theorem Reachable.mono {T : System σ β} (hi : ∀ s, S.Initial s → T.Initial s)
    (hs : ∀ s a t, S.Step s a t → T.Next s t) (h : S.Reachable s) : T.Reachable s := by
  obtain ⟨s₀, h₀, hr⟩ := h
  refine ⟨s₀, hi s₀ h₀, Relation.ReflTransGen.mono ?_ _ _ hr⟩
  rintro s t ⟨a, ha⟩
  exact hs s a t ha

end System
end Transition
