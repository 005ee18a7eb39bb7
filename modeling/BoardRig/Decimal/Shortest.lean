/-
The shortest decimal text of a binary number.

The numbers that round to a given one form an interval around it, with its
ends exactly when the mantissa is even. Among the decimals in the interval
those with the fewest digits are taken, and of these the one nearest to the
number. For a given count of digits only the two neighbours of the number on
that decimal grid need to be looked at.
-/
import BoardRig.Decimal.Binary64

namespace BoardRig.Decimal

/-- The decimal `digits * 10 ^ power`. -/
structure Scaled where
  digits : Nat
  power : Int
deriving DecidableEq, Repr

namespace Magnitude

/-- Four times the mantissa, and the ends of the interval of numbers that
round here, all in units of a quarter of the last binary place. -/
def quarters (d : Magnitude) : Nat × Nat × Nat :=
  let below := if d.mantissa = Nat.pow 2 52 ∧ -1074 < d.exponent then 1 else 2
  (4 * d.mantissa - below, 4 * d.mantissa, 4 * d.mantissa + 2)

/-- A count of quarters as the numerator of a ratio on the grid of
`10 ^ power`. -/
def onGrid (d : Magnitude) (power : Int) (count : Nat) : Nat :=
  count * Nat.pow 2 (d.exponent - 2).toNat * Nat.pow 10 (-power).toNat

/-- The denominator of ratios on the grid of `10 ^ power`. -/
def gridDen (d : Magnitude) (power : Int) : Nat :=
  Nat.pow 2 (2 - d.exponent).toNat * Nat.pow 10 power.toNat

/-- The multiple of `10 ^ power` that stands for the number, if one of its
two neighbours on that grid rounds to it. -/
def onGrid? (d : Magnitude) (power : Int) : Option Scaled :=
  let (low, value, high) := d.quarters
  let den := d.gridDen power
  let num := d.onGrid power value
  let inside := fun (n : Nat) =>
    let here := n * den
    if d.mantissa % 2 = 0 then d.onGrid power low ≤ here && here ≤ d.onGrid power high
    else d.onGrid power low < here && here < d.onGrid power high
  let floor := num / den
  let left := num % den
  if left = 0 then some ⟨floor, power⟩
  else match inside floor && floor != 0, inside (floor + 1) with
    | false, false => none
    | true, false => some ⟨floor, power⟩
    | false, true => some ⟨floor + 1, power⟩
    | true, true => some (if 2 * left ≤ den then ⟨floor, power⟩ else ⟨floor + 1, power⟩)

/-- The least `k` from `k` on with the number below `10 ^ k`, looking at most
`fuel` powers ahead. -/
def decimalWidth (d : Magnitude) : (fuel : Nat) → Int → Int
  | 0, k => k
  | fuel + 1, k =>
    if d.num * Nat.pow 10 (-k).toNat < d.den * Nat.pow 10 k.toNat then k else decimalWidth d fuel (k + 1)

/-- The first grid with a hit, from `digits` digits on. -/
def shortestFrom (d : Magnitude) (width : Int) : (fuel digits : Nat) → Scaled
  | 0, digits => ⟨d.num / d.den, digits⟩
  | fuel + 1, digits =>
    match d.onGrid? (width - (digits : Int)) with
    | some s => s
    | none => shortestFrom d width fuel (digits + 1)

/-- The shortest decimal that rounds to a positive number. -/
def shortest (d : Magnitude) : Scaled :=
  shortestFrom d (d.decimalWidth 700 (-330)) 17 1

end Magnitude

/-! ## Texts -/

/-- The digits of a decimal and the place of its point: the number is the
digits behind a point, times ten to that place. Zeros at the end are dropped. -/
def Scaled.places (s : Scaled) : List Char × Int :=
  let digits := Nat.toDigits 10 s.digits
  (Text.dropEndWhile (· == '0') digits, s.power + (digits.length : Int))

/-- Digits with a point at place `point` and no power of ten. -/
def positional (digits : List Char) (point : Int) : List Char × List Char :=
  if point ≤ 0 then (['0'], List.replicate (-point).toNat '0' ++ digits)
  else
    let whole := digits.take point.toNat
    (whole ++ List.replicate (point.toNat - digits.length) '0', digits.drop point.toNat)

/-- Digits with one place in front of the point and a power of ten. -/
def scientific (digits : List Char) (point : Int) : List Char :=
  let mantissa := match digits with
    | [] => ['0']
    | [d] => [d]
    | d :: rest => d :: '.' :: rest
  mantissa ++ 'e' :: (toString (point - 1)).toList

/-- How a number is written. -/
structure NumberStyle where
  /-- Whether a whole number keeps `.0`. -/
  wholePoint : Bool
  /-- The least and the greatest place of the point without a power of ten. -/
  positionalFrom : Option (Int × Int)
deriving Repr

/-- Numbers as people read them: never with a power of ten, whole numbers
without a point. -/
def plain : NumberStyle := ⟨false, none⟩

/-- Numbers with their type in sight: whole numbers keep `.0`, and a power of
ten comes in below `1e-4` and from `1e16` on. -/
def explicit : NumberStyle := ⟨true, some (-3, 16)⟩

namespace Binary64

def magnitudeText (style : NumberStyle) (d : Magnitude) : List Char :=
  if d.mantissa = 0 then if style.wholePoint then ['0', '.', '0'] else ['0']
  else
    let (digits, point) := d.shortest.places
    let inRange := match style.positionalFrom with
      | none => true
      | some (low, high) => low ≤ point && point ≤ high
    if inRange then
      match positional digits point with
      | (whole, []) => if style.wholePoint then whole ++ ['.', '0'] else whole
      | (whole, fraction) => whole ++ '.' :: fraction
    else scientific digits point

def text (style : NumberStyle) : Binary64 → String
  | .nan => "NaN"
  | .infinite negative => if negative then "-inf" else "inf"
  | .finite negative d =>
    String.ofList (if negative then '-' :: magnitudeText style d else magnitudeText style d)

end Binary64

end BoardRig.Decimal
