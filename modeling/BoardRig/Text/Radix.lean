/-
Unsigned numerals in a base up to 36.

Reading takes an optional plus sign and then one digit after the other; it
stops at the first character that is no digit of the base, or at the first
digit whose value no longer fits. Writing is in lower case, either with the
fewest digits or with leading zeros to a width.
-/
namespace BoardRig.Radix

/-- Why a numeral was refused. -/
inductive Fault where
  | empty
  | invalidDigit
  | overflow
deriving DecidableEq, Repr

def Fault.message : Fault → String
  | .empty => "cannot parse integer from empty string"
  | .invalidDigit => "invalid digit found in string"
  | .overflow => "number too large to fit in target type"

/-- The value of a character as a digit, in the largest base. -/
def alphanumeric? (c : Char) : Option Nat :=
  if '0' ≤ c ∧ c ≤ '9' then some (c.toNat - '0'.toNat)
  else if 'a' ≤ c ∧ c ≤ 'z' then some (c.toNat - 'a'.toNat + 10)
  else if 'A' ≤ c ∧ c ≤ 'Z' then some (c.toNat - 'A'.toNat + 10)
  else none

/-- The value of a character as a digit of `base`. -/
def digit? (base : Nat) (c : Char) : Option Nat :=
  (alphanumeric? c).filter (· < base)

/-- The value of `value` followed by the digits, kept below `limit`. -/
def readFrom (base limit : Nat) (value : Nat) : List Char → Except Fault Nat
  | [] => .ok value
  | c :: cs =>
    match digit? base c with
    | none => .error .invalidDigit
    | some d =>
      let next := value * base + d
      if next < limit then readFrom base limit next cs else .error .overflow

/-- The digits of a numeral without its plus sign. A sign alone is kept, and
is then refused as a digit. -/
def unsigned : List Char → List Char
  | '+' :: c :: cs => c :: cs
  | cs => cs

/-- The number below `limit` that a text denotes in `base`. -/
def read (base limit : Nat) (cs : List Char) : Except Fault Nat :=
  match cs with
  | [] => .error .empty
  | c :: rest => readFrom base limit 0 (unsigned (c :: rest))

/-- The number below `limit` that a text denotes in `base`, if any. -/
def read? (base limit : Nat) (cs : List Char) : Option Nat :=
  (read base limit cs).toOption

/-! ## Writing -/

/-- The digits of `n` in base sixteen, the last `width` of them. -/
def hexDigits : (width n : Nat) → List Char
  | 0, _ => []
  | width + 1, n => hexDigits width (n / 16) ++ [Nat.digitChar (n % 16)]

/-- A number in base sixteen with exactly `width` digits. -/
def hexFixed (width n : Nat) : String :=
  String.ofList (hexDigits width n)

/-- A number in base sixteen with the fewest digits. -/
def hex (n : Nat) : String :=
  String.ofList (Nat.toDigits 16 n)

/-- A 32-bit address as it is shown to people, `0x` and eight digits. -/
def address (n : Nat) : String :=
  "0x" ++ hexFixed 8 n

/-- A number as the tools take it, `0x` and the fewest digits. -/
def argument (n : Nat) : String :=
  "0x" ++ hex n

end BoardRig.Radix
