/-
Spans of time in nanoseconds, and their texts.

A span in seconds is shown with one decimal place. The seconds are first
taken to the nearest binary number, the whole part and the rest each on its
own, and the exact value of their sum is then rounded, so that a quarter of a
second shows as 0.2 and a twentieth as 0.1.
-/
import BoardRig.Decimal.Shortest

namespace BoardRig

/-- A span of time in nanoseconds; points in time count from a start. -/
abbrev Duration := Nat

namespace Duration

def perSecond : Nat := 1000000000

def ofSeconds (s : Nat) : Duration := s * perSecond

def ofMillis (ms : Nat) : Duration := ms * 1000000

/-- The longest span, `2 ^ 64` seconds less a nanosecond. -/
def longest : Duration := Nat.pow 2 64 * perSecond - 1

def seconds (d : Duration) : Nat := d / perSecond

/-- The nanoseconds of a span behind its whole seconds. -/
def subsecond (d : Duration) : Nat := d % perSecond

/-- The span in seconds as a binary number. -/
def binarySeconds (d : Duration) : Decimal.Magnitude :=
  let whole := (Decimal.Magnitude.ofRatio? d.seconds 1).getD ⟨0, -1074⟩
  let part := (Decimal.Magnitude.ofRatio? d.subsecond perSecond).getD ⟨0, -1074⟩
  (Decimal.Magnitude.ofRatio? (whole.num * part.den + part.num * whole.den)
    (whole.den * part.den)).getD ⟨0, -1074⟩

def tenths (d : Duration) : String :=
  let s := d.binarySeconds
  let n := Decimal.roundDiv (10 * s.num) s.den
  s!"{n / 10}.{n % 10}"

/-- A number of seconds as a span: to the nearest nanosecond, a tie going to
the even one. Negative numbers, numbers of `2 ^ 64` seconds and more, and
what is no number have none. -/
def ofBinary? : Decimal.Binary64 → Option Duration
  | .nan | .infinite _ => none
  | .finite negative d =>
    if negative && d.mantissa != 0 then none
    else
      let n := Decimal.roundDiv (d.num * perSecond) d.den
      if n ≤ longest then some n else none

end Duration

end BoardRig
