import OpenclawNode.Base.Except

/-! Computations that change a state in place: an error leaves the changes that were made before. -/
namespace InPlace

variable {σ ε α β : Type}

/-- A computation over a state that it writes as it goes. -/
abbrev Update (σ ε α : Type) := ExceptT ε (StateM σ) α

def run (x : Update σ ε α) (s : σ) : Except ε α × σ := StateT.run (ExceptT.run x) s

/-- A step that writes nothing. -/
def check (x : Except ε α) : Update σ ε α := ExceptT.mk (pure x)

/-- The changes are made all at once and only on success. -/
def committed (x : Except ε (α × σ)) (s : σ) : Except ε α × σ :=
  match x with
  | .ok (a, t) => (.ok a, t)
  | .error e => (.error e, s)

theorem run_get_bind (f : σ → Update σ ε β) (s : σ) : run (get >>= f) s = run (f s) s := rfl

theorem run_bind (x : Update σ ε α) (f : α → Update σ ε β) (s : σ) :
    run (x >>= f) s = match run x s with
      | (.ok a, t) => run (f a) t
      | (.error e, t) => (.error e, t) := by
  show StateT.run (ExceptT.run (x >>= f)) s = _
  rw [ExceptT.run_bind, StateT.run_bind]
  unfold run
  cases StateT.run (ExceptT.run x) s with
  | mk r t => cases r <;> rfl

theorem map_bind (x : Except ε α) (f : α → Except ε β) {γ : Type} (g : β → γ) :
    (x >>= f).map g = x >>= fun a => (f a).map g := by
  cases x <;> rfl

/-- A computation that first only checks commits what the rest of it commits. -/
theorem run_check_bind {x : Except ε α} {f : α → Update σ ε β} {g : α → Except ε (β × σ)} {s : σ}
    (h : ∀ a, x = .ok a → run (f a) s = committed (g a) s) :
    run (check x >>= f) s = committed (x >>= g) s := by
  cases x with
  | error e => rfl
  | ok a => exact h a rfl

theorem committed_eq_ok {x : Except ε (α × σ)} {s t : σ} {a : α} :
    committed x s = (.ok a, t) ↔ x = .ok (a, t) := by
  unfold committed
  cases x with
  | error e => simp
  | ok r => cases r; simp

/-- A computation that commits leaves the state as it is when it fails. -/
theorem committed_eq_error {x : Except ε (α × σ)} {s t : σ} {e : ε} :
    committed x s = (.error e, t) ↔ x = .error e ∧ t = s := by
  unfold committed
  cases x with
  | error e => simp [eq_comm]
  | ok r => cases r; simp

end InPlace
