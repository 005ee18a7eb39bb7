/-
Values written as a directive of a format says.

A directive has flags, a width and a precision. Whole numbers, numbers with a
fraction and texts are each written in their own way, and are then filled up
to the width.
-/
import BoardRig.Decimal.Ratio

namespace BoardRig.Decimal

/-- How a value is written. -/
structure Directive where
  /-- Filled up behind the value. -/
  left : Bool := false
  /-- A plus sign in front of what is not negative. -/
  plus : Bool := false
  /-- A blank in front of what is not negative. -/
  blank : Bool := false
  /-- The other form. -/
  alternate : Bool := false
  /-- Filled up with zeros. -/
  zeros : Bool := false
  width : Nat := 0
  precision : Option Nat := none

namespace Directive

def filled (d : Directive) (zeros : Bool) (sign digits : List Char) : List Char :=
  let missing := d.width - (sign.length + digits.length)
  if d.left then sign ++ digits ++ List.replicate missing ' '
  else if zeros then sign ++ List.replicate missing '0' ++ digits
  else List.replicate missing ' ' ++ sign ++ digits

def sign (d : Directive) (negative : Bool) : List Char :=
  if negative then ['-'] else if d.plus then ['+'] else if d.blank then [' '] else []

/-- A text, of which the precision limits the length. -/
def text (d : Directive) (cs : List Char) : List Char :=
  d.filled false [] (match d.precision with
    | some n => cs.take n
    | none => cs)

/-- The digits of a whole number, at least as many as the precision says. -/
def digitsOf (d : Directive) (base n : Nat) : List Char :=
  let digits := if n = 0 && d.precision == some 0 then [] else Nat.toDigits base n
  List.replicate (d.precision.getD 1 - digits.length) '0' ++ digits

def signed (d : Directive) (n : Int) : List Char :=
  d.filled (d.zeros && d.precision.isNone) (d.sign (n < 0)) (d.digitsOf 10 n.natAbs)

/-- A whole number without a sign: `u`, `o`, `x` or `X`. -/
def unsigned (d : Directive) (letter : Char) (n : Nat) : List Char :=
  let base := if letter = 'o' then 8 else if letter = 'u' then 10 else 16
  let digits := d.digitsOf base n
  let digits := if letter = 'o' && d.alternate && digits.head? != some '0' then '0' :: digits
    else digits
  let mark := if base = 16 && d.alternate && n != 0 then ['0', 'x'] else []
  let upper (cs : List Char) : List Char := if letter = 'X' then cs.map Char.toUpper else cs
  d.filled (d.zeros && d.precision.isNone) (upper mark) (upper digits)

/-! ## Numbers with a fraction -/

/-- Digits with a point in front of the last `places` of them. -/
def withPoint (d : Directive) (places : Nat) (digits : List Char) : List Char :=
  let digits := List.replicate (places + 1 - digits.length) '0' ++ digits
  let whole := digits.take (digits.length - places)
  if places = 0 then if d.alternate then whole ++ ['.'] else whole
  else whole ++ '.' :: digits.drop (digits.length - places)

def fixed (d : Directive) (places num den : Nat) : List Char :=
  d.withPoint places (Nat.toDigits 10 (roundDiv (num * Nat.pow 10 places) den))

/-- The greatest `k` with `10 ^ k * den ≤ num`, for a positive ratio. -/
def floorLog10 (num den : Nat) : Int :=
  let k : Int := ((Nat.toDigits 10 num).length : Int) - ((Nat.toDigits 10 den).length : Int)
  if den * Nat.pow 10 k.toNat ≤ num * Nat.pow 10 (-k).toNat then k else k - 1

/-- The digits of a ratio, one more than `places`, and the power of ten that
the first of them stands for. -/
def leadingDigits (places num den : Nat) : List Char × Int :=
  if num = 0 then (List.replicate (places + 1) '0', 0)
  else
    let k := floorLog10 num den
    let shift := (places : Int) - k
    let n := roundDiv (num * Nat.pow 10 shift.toNat) (den * Nat.pow 10 (-shift).toNat)
    let digits := Nat.toDigits 10 n
    if places + 1 < digits.length then (digits.dropLast, k + 1) else (digits, k)

/-- A power behind a letter, with a sign and at least two digits. -/
def power (letter : Char) (least : Nat) (k : Int) : List Char :=
  let digits := Nat.toDigits 10 k.natAbs
  letter :: (if k < 0 then '-' else '+') :: List.replicate (least - digits.length) '0' ++ digits

/-- Digits without zeros at their end, and without a point then. -/
def trimmed (digits : List Char) : List Char :=
  if digits.contains '.' then
    Text.dropEndWhile (· == '.') (Text.dropEndWhile (· == '0') digits)
  else digits

/-- A ratio with one digit in front of the point and a power of ten. -/
def scaled (d : Directive) (trim : Bool) (places num den : Nat) : List Char :=
  let (digits, k) := leadingDigits places num den
  let shown := d.withPoint places digits
  (if trim then trimmed shown else shown) ++ power 'e' 2 k

/-- A ratio with some digits in all, in the shorter of the two forms. -/
def general (d : Directive) (precision num den : Nat) : List Char :=
  let precision := max precision 1
  let (_, k) := leadingDigits (precision - 1) num den
  if -4 ≤ k && k < (precision : Int) then
    let shown := d.fixed ((precision : Int) - 1 - k).toNat num den
    if d.alternate then shown else trimmed shown
  else d.scaled (!d.alternate) (precision - 1) num den

/-- A ratio in base sixteen with a power of two; the first digit has so many
bits. -/
def hexadecimal (d : Directive) (p : Precision) (lead num den : Nat) : List Char :=
  if num = 0 then "0x".toList ++ d.withPoint (d.precision.getD 0)
    (List.replicate (d.precision.getD 0 + 1) '0') ++ power 'p' 1 0
  else
    let k := max (Magnitude.floorLog2 num den) (p.least + (p.bits : Int) - 1)
    let full := (p.bits - lead) / 4
    let places := d.precision.getD full
    let shift := (4 * places : Int) - (k - ((lead : Int) - 1))
    let n := roundDiv (num * Nat.pow 2 shift.toNat) (den * Nat.pow 2 (-shift).toNat)
    let (n, k) := if Nat.pow 2 (lead + 4 * places) ≤ n then (n / Nat.pow 2 lead, k + (lead : Int)) else (n, k)
    let shown := d.withPoint places (Nat.toDigits 16 n)
    "0x".toList ++ (if d.precision.isNone then trimmed shown else shown) ++
      power 'p' 1 (k - ((lead : Int) - 1))

def real (d : Directive) (p : Precision) (letter : Char) (n : Number) : List Char :=
  let upper (cs : List Char) : List Char := if letter.isUpper then cs.map Char.toUpper else cs
  let special (negative : Bool) (name : String) : List Char :=
    d.filled false (d.sign negative) (upper name.toList)
  match n with
  | .infinite negative => special negative "inf"
  | .nan negative => special negative "nan"
  | .finite negative num den =>
    let precision := d.precision.getD 6
    let shown := match letter.toLower with
      | 'f' => d.fixed precision num den
      | 'e' => d.scaled false precision num den
      | 'a' => d.hexadecimal p (if p.bits = 64 then 4 else 1) num den
      | _ => d.general precision num den
    let sign := d.sign negative
    let (sign, shown) := if letter.toLower = 'a' then (sign ++ shown.take 2, shown.drop 2)
      else (sign, shown)
    d.filled d.zeros (upper sign) (upper shown)

end Directive

end BoardRig.Decimal
