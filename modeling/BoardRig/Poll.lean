/-
Waiting for something by asking again and again.

A wait asks at once, and then once more after each pause of a fixed length,
until an attempt yields a value or fails. It expires right after the first
attempt in vain that ends at or after the deadline. The last pause is cut
short so that an attempt is made at the deadline itself. A timeout that leads
beyond what the clock can show gives no deadline.
-/
import BoardRig.Duration
import BoardRig.Loop

namespace BoardRig

/-- A clock in a world of type `σ`, which can also let time pass. -/
structure Clock (σ : Type) where
  now : σ → Duration
  sleep : Duration → σ → σ

namespace Clock

def pause {σ : Type} (clock : Clock σ) (d : Duration) : Action σ Unit :=
  Action.change (clock.sleep d)

end Clock

namespace Poll

/-- The first moment that a clock cannot show. -/
def horizon : Duration := Duration.ofSeconds (Nat.pow 2 63)

/-- The moment at which a wait expires, if the clock can show it. -/
def deadline? (start timeout : Duration) : Option Duration :=
  if start + timeout < horizon then some (start + timeout) else none

def expired (what : String) (timeout : Duration) : Error :=
  .timeout s!"{what} not ready within {timeout.tenths}s"

/-- One attempt, and the pause before the next one if it was in vain. -/
def round {σ α : Type} (clock : Clock σ) (interval : Duration) (deadline : Option Duration)
    (late : Error) (attempt : Action σ (Option α)) : Action σ (Unit ⊕ α) := fun s =>
  match attempt s with
  | (.error e, s) => (.error e, s)
  | (.ok (some a), s) => (.ok (.inr a), s)
  | (.ok none, s) =>
    match deadline with
    | none => (.ok (.inl ()), clock.sleep interval s)
    | some d =>
      if d ≤ clock.now s then (.error late, s)
      else (.ok (.inl ()), clock.sleep (min interval (d - clock.now s)) s)

/-- Ask until an attempt yields a value, fails, or the timeout is over. -/
def wait {σ α : Type} (clock : Clock σ) (interval timeout : Duration) (what : String)
    (attempt : Action σ (Option α)) : Action σ α := fun s =>
  let deadline := deadline? (clock.now s) timeout
  Action.loop (fun _ => round clock interval deadline (expired what timeout) attempt) () s

end Poll

end BoardRig
