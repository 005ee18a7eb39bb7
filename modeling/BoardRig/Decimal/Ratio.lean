/-
Numbers with a fraction, as exact ratios.

A number is a ratio with a sign, or infinite, or no number at all. A binary
format of some precision holds the ratios with few enough digits; every other
ratio is rounded to the nearest of those. A text is read up to the first
character that cannot belong to the number.
-/
import BoardRig.Decimal.Binary64

namespace BoardRig.Decimal

/-- A number. -/
inductive Number where
  | finite (negative : Bool) (num den : Nat)
  | infinite (negative : Bool)
  | nan (negative : Bool)
deriving DecidableEq, Repr

/-- A binary format: how many digits a number has, and the least and the
greatest power of two that its last digit may stand for. -/
structure Precision where
  bits : Nat
  least : Int
  greatest : Int

namespace Precision

/-- The format of 64 bits. -/
def double : Precision := ⟨53, -1074, 971⟩

/-- The format of 80 bits. -/
def extended : Precision := ⟨64, -16445, 16320⟩

end Precision

namespace Number

def ofNat (n : Nat) : Number := .finite false n 1

def ofInt (n : Int) : Number := .finite (n < 0) n.natAbs 1

def opposite : Number → Number
  | finite negative num den => finite (!negative) num den
  | infinite negative => infinite (!negative)
  | nan negative => nan (!negative)

def rounded (p : Precision) : Number → Number
  | finite negative num den =>
    if num = 0 then finite negative 0 1
    else
      let power := max (Magnitude.floorLog2 num den - ((p.bits : Int) - 1)) p.least
      let d := Magnitude.atExponent num den power
      let d := if d.mantissa = Nat.pow 2 p.bits then ⟨Nat.pow 2 (p.bits - 1), d.exponent + 1⟩ else d
      if p.greatest < d.exponent then infinite negative else finite negative d.num d.den
  | n => n

/-- The number `digits * 10 ^ power` in a format. Powers far outside of its
range decide the result without being computed. -/
def ofDecimal (p : Precision) (negative : Bool) (digits width : Nat) (power : Int) : Number :=
  if digits = 0 then finite negative 0 1
  else if 6000 < power then infinite negative
  else if power < -(6000 + (width : Int)) then finite negative 0 1
  else rounded p (finite negative (digits * Nat.pow 10 power.toNat) (Nat.pow 10 (-power).toNat))

/-! ## Reading -/

def digitsValue (base : Nat) (cs : List Char) : Nat :=
  cs.foldl (fun n c => n * base + (Radix.digit? base c).getD 0) 0

/-- A power behind a letter, and the text behind it; without digits there is
none. -/
def powerBehind (letter : Char) (cs : List Char) : Int × List Char :=
  match cs with
  | c :: rest =>
    if c.toLower = letter then
      let (negative, digits) := Binary64.sign rest
      let run := digits.takeWhile Char.isDigit
      if run.isEmpty then (0, cs)
      else
        let n : Int := Binary64.ofDigits run
        (if negative then -n else n, digits.drop run.length)
    else (0, cs)
  | [] => (0, [])

/-- Digits of a base with an optional point among them: those in front of the
point, those behind it, and the text behind all. -/
def pointed (base : Nat) (cs : List Char) : List Char × List Char × List Char :=
  let isDigit (c : Char) : Bool := (Radix.digit? base c).isSome
  let whole := cs.takeWhile isDigit
  match cs.drop whole.length with
  | '.' :: rest =>
    let fraction := rest.takeWhile isDigit
    if whole.isEmpty && fraction.isEmpty then (whole, [], '.' :: rest)
    else (whole, fraction, rest.drop fraction.length)
  | rest => (whole, [], rest)

def readUnsigned? (p : Precision) (negative : Bool) (cs : List Char) :
    Option (Number × List Char) :=
  let lower := cs.map Char.toLower
  let decimal : Option (Number × List Char) :=
    let (whole, fraction, rest) := pointed 10 cs
    let digits := whole ++ fraction
    if digits.isEmpty then none
    else
      let (power, rest) := powerBehind 'e' rest
      some (ofDecimal p negative (Binary64.ofDigits digits) digits.length
        (power - (fraction.length : Int)), rest)
  if "infinity".toList.isPrefixOf lower then some (infinite negative, cs.drop 8)
  else if "inf".toList.isPrefixOf lower then some (infinite negative, cs.drop 3)
  else if "nan".toList.isPrefixOf lower then
    match cs.drop 3 with
    | '(' :: rest =>
      let inner := rest.takeWhile fun c => c.isAlphanum || c == '_'
      match rest.drop inner.length with
      | ')' :: rest => some (nan negative, rest)
      | _ => some (nan negative, cs.drop 3)
    | rest => some (nan negative, rest)
  else
    match lower with
    | '0' :: 'x' :: _ =>
      let (whole, fraction, rest) := pointed 16 (cs.drop 2)
      let digits := whole ++ fraction
      if digits.isEmpty then some (finite negative 0 1, cs.drop 1)
      else
        let (power, rest) := powerBehind 'p' rest
        let power := power - 4 * (fraction.length : Int)
        let n := digitsValue 16 digits
        let number :=
          if n = 0 then finite negative 0 1
          else if 20000 < power then infinite negative
          else if power < -(20000 + 4 * (digits.length : Int)) then finite negative 0 1
          else rounded p (finite negative (n * Nat.pow 2 power.toNat) (Nat.pow 2 (-power).toNat))
        some (number, rest)
    | _ => decimal

/-- Whether a character may stand in front of a number. -/
def isGap (c : Char) : Bool := c == ' ' || ('\t' ≤ c && c ≤ '\r')

/-- Read the number at the front of a text, behind blanks and a sign; yields
it with the text behind it. -/
def read? (p : Precision) (cs : List Char) : Option (Number × List Char) :=
  let (negative, rest) := Binary64.sign (cs.dropWhile isGap)
  readUnsigned? p negative rest

end Number

end BoardRig.Decimal
