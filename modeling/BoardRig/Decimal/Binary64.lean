/-
Binary floating point numbers of 64 bits, as exact numbers.

A finite number is a sign and a magnitude `mantissa * 2 ^ exponent` with a
mantissa below `2 ^ 53` and an exponent of at least -1074. A ratio of natural
numbers rounds to the nearest such magnitude, a tie going to the even
mantissa. Reading a decimal numeral rounds the ratio that it denotes.
-/
import BoardRig.Text.Blank
import BoardRig.Text.Radix

namespace BoardRig.Decimal

/-- A ratio rounded to the nearest natural number; a tie goes to the even
neighbour. -/
def roundDiv (num den : Nat) : Nat :=
  let floor := num / den
  let left := num % den
  if 2 * left < den then floor
  else if den < 2 * left then floor + 1
  else floor + floor % 2

/-- A nonnegative number `mantissa * 2 ^ exponent`. -/
structure Magnitude where
  mantissa : Nat
  exponent : Int
deriving DecidableEq, Repr

namespace Magnitude

/-- The numerator of the number as a ratio. -/
def num (d : Magnitude) : Nat :=
  d.mantissa * Nat.pow 2 d.exponent.toNat

/-- The denominator of the number as a ratio. -/
def den (d : Magnitude) : Nat :=
  Nat.pow 2 (-d.exponent).toNat

/-- The largest `k` with `2 ^ k * den ≤ num`, for a positive ratio. -/
def floorLog2 (num den : Nat) : Int :=
  let k : Int := (Nat.log2 num : Int) - (Nat.log2 den : Int)
  if den * Nat.pow 2 k.toNat ≤ num * Nat.pow 2 (-k).toNat then k else k - 1

/-- A ratio rounded to a multiple of `2 ^ exponent`. -/
def atExponent (num den : Nat) (exponent : Int) : Magnitude :=
  ⟨roundDiv (num * Nat.pow 2 (-exponent).toNat) (den * Nat.pow 2 exponent.toNat), exponent⟩

/-- A mantissa that rounding carried to the next power of two is halved. -/
def renormalise (d : Magnitude) : Magnitude :=
  if d.mantissa = Nat.pow 2 53 then ⟨Nat.pow 2 52, d.exponent + 1⟩ else d

/-- A ratio as a magnitude of 64 bits; nothing if it is too large. -/
def ofRatio? (num den : Nat) : Option Magnitude :=
  if num = 0 then some ⟨0, -1074⟩
  else
    let d := (atExponent num den (max (floorLog2 num den - 52) (-1074))).renormalise
    if d.exponent ≤ 971 then some d else none

end Magnitude

/-- A number of 64 bits. -/
inductive Binary64 where
  | finite (negative : Bool) (magnitude : Magnitude)
  | infinite (negative : Bool)
  | nan
deriving DecidableEq, Repr

namespace Binary64

/-- The number nearest to a ratio with a sign. -/
def ofRatio (negative : Bool) (num den : Nat) : Binary64 :=
  match Magnitude.ofRatio? num den with
  | some d => .finite negative d
  | none => .infinite negative

def ofDigits (cs : List Char) : Nat :=
  cs.foldl (fun n c => n * 10 + (c.toNat - '0'.toNat)) 0

/-- The number nearest to `digits * 10 ^ power`. Powers far outside the range
of the format decide the result without being computed. -/
def ofDecimal (negative : Bool) (digits : Nat) (width : Nat) (power : Int) : Binary64 :=
  if digits = 0 then .finite negative ⟨0, -1074⟩
  else if 400 < power then .infinite negative
  else if power < -(400 + (width : Int)) then .finite negative ⟨0, -1074⟩
  else ofRatio negative (digits * Nat.pow 10 power.toNat) (Nat.pow 10 (-power).toNat)

/-! ## Reading -/

def sign : List Char → Bool × List Char
  | '-' :: cs => (true, cs)
  | '+' :: cs => (false, cs)
  | cs => (false, cs)

/-- The power of ten behind a mantissa: nothing, or `e` and digits with an
optional sign. -/
def power? : List Char → Option Int
  | [] => some 0
  | c :: cs =>
    if c = 'e' ∨ c = 'E' then
      let (negative, digits) := sign cs
      if digits.isEmpty || !digits.all Char.isDigit then none
      else
        let n : Int := ofDigits digits
        some (if negative then -n else n)
    else none

/-- A numeral without its sign: digits with an optional point among them, at
least one digit, and an optional power of ten. -/
def magnitude? (negative : Bool) (cs : List Char) : Option Binary64 :=
  let whole := cs.takeWhile Char.isDigit
  let (fraction, rest) :=
    match cs.dropWhile Char.isDigit with
    | '.' :: rest => (rest.takeWhile Char.isDigit, rest.dropWhile Char.isDigit)
    | rest => ([], rest)
  let digits := whole ++ fraction
  if digits.isEmpty then none
  else (power? rest).map fun power =>
    ofDecimal negative (ofDigits digits) digits.length (power - (fraction.length : Int))

/-- The number that a text denotes: a decimal numeral, or a name for infinity
or for no number, in any case of letters. -/
def read? (cs : List Char) : Option Binary64 :=
  let (negative, rest) := sign cs
  match rest.map Text.lowerAscii with
  | ['n', 'a', 'n'] => some .nan
  | ['i', 'n', 'f'] => some (.infinite negative)
  | ['i', 'n', 'f', 'i', 'n', 'i', 't', 'y'] => some (.infinite negative)
  | _ => magnitude? negative rest

end Binary64

end BoardRig.Decimal
