/-
Doing a step again and again until it is done.

A step yields the result of the loop, or a value to take the next step with.
Nothing bounds how many steps there are. A loop in which every step asks for
another one has no end and so no result; `unending` is reported for it, which
no run of a program lives to see.
-/
import BoardRig.Error

namespace BoardRig

variable {σ α β : Type}

/-- A loop is the step that it takes. -/
structure Loop (σ β α : Type) where
  step : β → Action σ (β ⊕ α)

/-- The end of a loop, if it comes to one. -/
def Loop.run? (loop : Loop σ β α) (b : β) (s : σ) : Option (Except Error α × σ) :=
  match loop.step b s with
  | (.error e, s) => some (.error e, s)
  | (.ok (.inr a), s) => some (.ok a, s)
  | (.ok (.inl b), s) => loop |>.run? b s
partial_fixpoint

namespace Action

/-- The end of taking steps, if they come to one. -/
def loop? (step : β → Action σ (β ⊕ α)) (b : β) (s : σ) : Option (Except Error α × σ) :=
  Loop.run? ⟨step⟩ b s

/-- Take steps until one of them yields a result or fails. -/
def loop (step : β → Action σ (β ⊕ α)) (b : β) : Action σ α := fun s =>
  (loop? step b s).getD (.error .unending, s)

end Action

end BoardRig
