/-
The words of a TOML document that are no strings: numbers, dates and times.

Digits may have single underscores between them. A whole number has 64 bits
with its sign; in base sixteen, eight and two it has none. A fraction or a
power of ten makes a number a binary one, which must not be too large. Dates
follow the calendar. Every part reads from the front of the text and hands
on the rest.
-/
import BoardRig.Text.Radix
import BoardRig.Toml.Value

namespace BoardRig.Toml

/-! ## Numbers -/

/-- Digits of class `p` behind those in `before`, which are in reverse. -/
def digitsFrom? (p : Char → Bool) (before : List Char) : List Char → Option (List Char × List Char)
  | '_' :: c :: rest => if p c then digitsFrom? p (c :: before) rest else none
  | ['_'] => none
  | c :: rest =>
    if p c then digitsFrom? p (c :: before) rest else some (before.reverse, c :: rest)
  | [] => some (before.reverse, [])

/-- At least one digit of class `p`, without the underscores. -/
def digits? (p : Char → Bool) : List Char → Option (List Char × List Char)
  | c :: rest => if p c then digitsFrom? p [c] rest else none
  | [] => none

/-- The sign in front of a number, and what stands behind it. -/
def sign : List Char → List Char × List Char
  | '+' :: rest => (['+'], rest)
  | '-' :: rest => (['-'], rest)
  | rest => ([], rest)

/-- The whole digits of a number: a zero, or digits that begin with another. -/
def whole? : List Char → Option (List Char × List Char)
  | '0' :: rest => some (['0'], rest)
  | cs => digits? Char.isDigit cs

/-- The part of a number behind its point, if it has one. -/
def fraction? : List Char → Option (List Char × List Char)
  | '.' :: rest => (digits? Char.isDigit rest).map fun (digits, rest) => ('.' :: digits, rest)
  | rest => some ([], rest)

def power? : List Char → Option (List Char × List Char)
  | c :: rest =>
    if c = 'e' ∨ c = 'E' then
      let (sign, rest) := sign rest
      (digits? Char.isDigit rest).map fun (digits, rest) => ('e' :: sign ++ digits, rest)
    else some ([], c :: rest)
  | [] => some ([], [])

/-- A binary number that is written as a word, behind its sign. -/
def namedFloat? (negative : Bool) : List Char → Option (Value × List Char)
  | 'i' :: 'n' :: 'f' :: rest => some (.float (.infinite negative), rest)
  | 'n' :: 'a' :: 'n' :: rest => some (.float .nan, rest)
  | _ => none

/-- A number with a fraction or a power of ten, or one that is written as a
word. -/
def float? (cs : List Char) : Option (Value × List Char) := do
  let (sign, behind) := sign cs
  match namedFloat? (sign == ['-']) behind with
  | some named => some named
  | none =>
    let (whole, rest) ← whole? behind
    let (fraction, rest) ← fraction? rest
    let (power, rest) ← power? rest
    if fraction.isEmpty && power.isEmpty then none
    else
      match Decimal.Binary64.read? (sign ++ whole ++ fraction ++ power) with
      | some (.infinite false) => none
      | some x => some (.float x, rest)
      | none => none

/-- A whole number in a base other than ten, behind its mark. -/
def based? (base : Nat) (cs : List Char) : Option (Value × List Char) := do
  let (digits, rest) ← digits? (fun c => (Radix.digit? base c).isSome) cs
  let n ← Radix.read? base (Nat.pow 2 63) digits
  return (.integer n, rest)

def integer? : List Char → Option (Value × List Char)
  | '0' :: 'x' :: rest => based? 16 rest
  | '0' :: 'o' :: rest => based? 8 rest
  | '0' :: 'b' :: rest => based? 2 rest
  | cs => do
    let (sign, behind) := sign cs
    let (digits, rest) ← whole? behind
    let n := Decimal.Binary64.ofDigits digits
    if sign == ['-'] then if n ≤ Nat.pow 2 63 then some (.integer (-n), rest) else none
    else if n < Nat.pow 2 63 then some (.integer n, rest) else none

/-! ## Dates and times -/

/-- The text behind a number of exactly `width` digits between two bounds,
and the number. -/
def counted? (width low high : Nat) (cs : List Char) : Option (Nat × List Char) :=
  let digits := cs.take width
  let n := Decimal.Binary64.ofDigits digits
  if digits.length = width && digits.all Char.isDigit && low ≤ n && n ≤ high then
    some (n, cs.drop width)
  else none

def daysOf (year month : Nat) : Nat :=
  if month = 2 then if year % 4 = 0 && (year % 100 != 0 || year % 400 = 0) then 29 else 28
  else if month = 4 || month = 6 || month = 9 || month = 11 then 30
  else 31

/-- The text behind a character that must come next. -/
def behind? (c : Char) : List Char → Option (List Char)
  | d :: rest => if d = c then some rest else none
  | [] => none

def behindDate? (cs : List Char) : Option (List Char) := do
  let (year, cs) ← counted? 4 0 9999 cs
  let (month, cs) ← counted? 2 1 12 (← behind? '-' cs)
  let (_, cs) ← counted? 2 1 (daysOf year month) (← behind? '-' cs)
  return cs

/-- The text behind the hours and minutes of a clock. -/
def behindMinutes? (cs : List Char) : Option (List Char) := do
  let (_, cs) ← counted? 2 0 23 cs
  let (_, cs) ← counted? 2 0 59 (← behind? ':' cs)
  return cs

/-- The text behind the parts of a second, if there are any. -/
def behindParts : List Char → List Char
  | '.' :: c :: rest => if c.isDigit then rest.dropWhile Char.isDigit else '.' :: c :: rest
  | rest => rest

/-- The text behind a time of day; a minute may have a leap second. -/
def behindTime? (cs : List Char) : Option (List Char) := do
  let cs ← behindMinutes? cs
  let (_, cs) ← counted? 2 0 60 (← behind? ':' cs)
  return behindParts cs

/-- The text behind the offset of a time, if it has one. -/
def behindOffset : List Char → List Char
  | [] => []
  | c :: rest =>
    if c = 'Z' ∨ c = 'z' then rest
    else if c = '+' ∨ c = '-' then (behindMinutes? rest).getD (c :: rest)
    else c :: rest

/-- The text behind the time that follows a date, if one does. -/
def behindDateTime : List Char → List Char
  | [] => []
  | c :: rest =>
    if c = 'T' ∨ c = 't' ∨ c = ' ' then ((behindTime? rest).map behindOffset).getD (c :: rest)
    else c :: rest

def moment? (cs : List Char) : Option (Value × List Char) := do
  let rest ← match behindDate? cs with
    | some rest => some (behindDateTime rest)
    | none => behindTime? cs
  return (.moment (String.ofList (cs.take (cs.length - rest.length))), rest)

def scalar? (cs : List Char) : Option (Value × List Char) :=
  match cs with
  | 't' :: 'r' :: 'u' :: 'e' :: rest => some (.boolean true, rest)
  | 'f' :: 'a' :: 'l' :: 's' :: 'e' :: rest => some (.boolean false, rest)
  | cs => (moment? cs).or ((float? cs).or (integer? cs))

end BoardRig.Toml
