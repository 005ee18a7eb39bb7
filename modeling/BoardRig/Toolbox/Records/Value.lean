/-
The values of programs that act on records.

A value is a number or a text, and each can be taken for the other. A text
that was read from outside counts as a number if it looks like one. A
variable that was never set is both an empty text and zero.
-/
import BoardRig.Decimal.Directive
import BoardRig.Toolbox.Records.Syntax

namespace BoardRig.Toolbox.Records

open Decimal

/-! ## Numbers -/

/-- The number that 64 bits stand for, as an exact one. What is no number counts
as below zero, as the result of an operation without one does. -/
def exact (x : Float) : Number :=
  let bits := x.toBits.toNat
  let negative := Nat.pow 2 63 ≤ bits
  let power : Nat := bits / Nat.pow 2 52 % 2048
  let fraction : Nat := bits % Nat.pow 2 52
  if power = 2047 then if fraction = 0 then .infinite negative else .nan true
  else
    let d : Magnitude :=
      if power = 0 then ⟨fraction, -1074⟩ else ⟨Nat.pow 2 52 + fraction, (power : Int) - 1075⟩
    .finite negative d.num d.den

def rounded (n : Number) : Float :=
  match n with
  | .nan _ => 0.0 / 0.0
  | .infinite negative => if negative then -1.0 / 0.0 else 1.0 / 0.0
  | .finite negative num den =>
    match Magnitude.ofRatio? num den with
    | none => if negative then -1.0 / 0.0 else 1.0 / 0.0
    | some d =>
      let bits :=
        if d.mantissa < Nat.pow 2 52 then d.mantissa
        else (d.exponent + 1075).toNat * Nat.pow 2 52 + (d.mantissa - Nat.pow 2 52)
      Float.ofBits (UInt64.ofNat ((if negative then Nat.pow 2 63 else 0) + bits))

/-- A number without what stands behind its point. -/
def whole (n : Number) : Int :=
  match n with
  | .finite negative num den =>
    let k : Int := (num / den : Nat)
    if negative then -k else k
  | .infinite negative => if negative then -Int.pow 2 63 else Int.pow 2 64 - 1
  | .nan _ => -Int.pow 2 63

/-- Whether nothing stands behind the point of a number that has few enough
digits. -/
def isWhole (n : Number) : Bool :=
  match n with
  | .finite _ num den => num % den = 0 && num / den < Nat.pow 2 63
  | _ => false

/-- The number at the front of a text, or zero. -/
def leading (cs : Octets) : Float :=
  ((Number.read? .double cs).map fun (n, _) => rounded n).getD 0

/-- The number that a whole text looks like, with blanks around it. -/
def looksLike (cs : Octets) : Option Float :=
  let isPlain (c : Char) : Bool := c.isDigit || c == '.' || c == '+' || c == '-'
  let inner := cs.dropWhile Number.isGap
  if (inner.head?.any isPlain) then
    match Number.read? .double inner with
    | some (n, rest) => if rest.all Number.isGap then some (rounded n) else none
    | none => none
  else none

/-! ## Values -/

/-- A value. -/
inductive Value where
  | nothing
  | number (x : Float)
  | text (cs : Octets)
  /-- A text from outside that looks like a number. -/
  | both (cs : Octets) (x : Float)

namespace Value

def ofInput (cs : Octets) : Value :=
  match looksLike cs with
  | some x => .both cs x
  | none => .text cs

def ofNat (n : Nat) : Value := .number (Float.ofNat n)

def ofBool (b : Bool) : Value := .number (if b then 1 else 0)

def toFloat : Value → Float
  | nothing => 0
  | number x => x
  | text cs => leading cs
  | both _ x => x

/-- A number as a text; `format` is the directive for numbers that are not
whole. -/
def numberText (format : Directive × Char) (x : Float) : Octets :=
  let n := exact x
  if isWhole n then Octets.ofInt (whole n)
  else format.1.real .double format.2 n

def toText (format : Directive × Char) : Value → Octets
  | nothing => []
  | number x => numberText format x
  | text cs => cs
  | both cs _ => cs

def holds : Value → Bool
  | nothing => false
  | number x => x != 0
  | text cs => !cs.isEmpty
  | both _ x => x != 0

def isText : Value → Bool
  | text _ => true
  | _ => false

def compares (format : Directive × Char) (op : Comparison) (a b : Value) : Bool :=
  if a.isText || b.isText then
    let x := a.toText format
    let y := b.toText format
    match op with
    | .less => x < y
    | .atMost => !(y < x)
    | .equal => x == y
    | .unequal => x != y
    | .greater => y < x
    | .atLeast => !(x < y)
  else
    let x := a.toFloat
    let y := b.toFloat
    match op with
    | .less => x < y
    | .atMost => x ≤ y
    | .equal => x == y
    | .unequal => x != y
    | .greater => y < x
    | .atLeast => y ≤ x

end Value

/-- What is computed from two numbers. -/
def Arithmetic.apply (op : Arithmetic) (x y : Float) : Float :=
  match op with
  | .sum => x + y
  | .difference => x - y
  | .product => x * y
  | .quotient => x / y
  | .power => Float.pow x y
  | .remainder =>
    match exact x, exact y with
    | .finite negative a b, .finite _ c d =>
      if c = 0 then 0.0 / 0.0 else rounded (.finite negative (a * d % (c * b)) (b * d))
    | .finite _ _ _, .infinite _ => x
    | _, _ => 0.0 / 0.0

end BoardRig.Toolbox.Records
