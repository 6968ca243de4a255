/-! Asynchronous functions as what their calls and polls may do to a world they share. -/
namespace Future

/-- What one poll of a future yields. -/
inductive Polled (α : Type)
  | pending
  | ready (value : α)
  | panicked

/-- An asynchronous function of `ι` over worlds `ω`. A call makes a future or panics, a poll of the
future may change the world, and either notes in `ν` what it did. -/
structure AsyncFn (ω ι α ν : Type) where
  State : Type
  Call : ι → ω → List ν → Option State → ω → Prop
  Poll : State → ω → List ν → Polled α → State → ω → Prop

/-- An asynchronous function that is ready at once and leaves the world. -/
def AsyncFn.pure {ω ι α ν : Type} (value : α) : AsyncFn ω ι α ν where
  State := Unit
  Call _ w notes future w' := notes = [] ∧ future = some () ∧ w' = w
  Poll _ w notes outcome _ w' := notes = [] ∧ outcome = .ready value ∧ w' = w

end Future
