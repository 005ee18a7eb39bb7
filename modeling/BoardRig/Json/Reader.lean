/-
Reading a JSON document.

The grammar is the strict one: no comments, no trailing commas, no control
characters inside strings, and nothing but space behind the value. Every
part reads from the front of the text and hands on the rest.
-/
import BoardRig.Json.Value

namespace BoardRig.Json

namespace Reader

/-- The characters that may stand between tokens. -/
def isSpace (c : Char) : Bool :=
  c == ' ' || c == '\t' || c == '\n' || c == '\r'

def skipSpace (cs : List Char) : List Char :=
  cs.dropWhile isSpace

/-! ## Strings -/

/-- What stands for a character inside a string: itself, or a number of
sixteen bits. -/
inductive Unit16 where
  | plain (c : Char)
  | escaped (n : Nat)
deriving Repr

/-- The value of a digit in base sixteen. -/
def hexDigit? (c : Char) : Option Nat :=
  if '0' ≤ c ∧ c ≤ '9' then some (c.toNat - 48)
  else if 'a' ≤ c ∧ c ≤ 'f' then some (c.toNat - 87)
  else if 'A' ≤ c ∧ c ≤ 'F' then some (c.toNat - 55)
  else none

/-- The number that four digits in base sixteen denote. -/
def hexFour? (a b c d : Char) : Option Nat := do
  return (((← hexDigit? a) * 16 + (← hexDigit? b)) * 16 + (← hexDigit? c)) * 16 + (← hexDigit? d)

/-- The character that a one-letter escape stands for. -/
def escape? : Char → Option Char
  | '"' => some '"'
  | '\\' => some '\\'
  | '/' => some '/'
  | 'b' => some '\x08'
  | 'f' => some '\x0c'
  | 'n' => some '\n'
  | 'r' => some '\r'
  | 't' => some '\t'
  | _ => none

/-- The units of a string behind its opening quote, and the text behind its
closing one. Units read so far stand in `units` in reverse. -/
def stringUnits? (units : List Unit16) : List Char → Option (List Unit16 × List Char)
  | [] => none
  | '"' :: rest => some (units.reverse, rest)
  | '\\' :: 'u' :: a :: b :: c :: d :: rest =>
    match hexFour? a b c d with
    | some n => stringUnits? (.escaped n :: units) rest
    | none => none
  | '\\' :: c :: rest =>
    match escape? c with
    | some e => stringUnits? (.plain e :: units) rest
    | none => none
  | c :: rest => if c.toNat < 0x20 ∨ c = '\\' then none else stringUnits? (.plain c :: units) rest

/-- The text of some units, where two escapes may form a surrogate pair. -/
def textOfUnits? (text : List Char) : List Unit16 → Option String
  | [] => some (String.ofList text.reverse)
  | .plain c :: rest => textOfUnits? (c :: text) rest
  | .escaped high :: .escaped low :: rest =>
    if 0xD800 ≤ high ∧ high < 0xDC00 then
      if 0xDC00 ≤ low ∧ low < 0xE000 then
        textOfUnits? (Char.ofNat (0x10000 + (high - 0xD800) * 0x400 + (low - 0xDC00)) :: text) rest
      else none
    else if 0xDC00 ≤ high ∧ high < 0xE000 then none
    else textOfUnits? (Char.ofNat high :: text) (.escaped low :: rest)
  | .escaped n :: rest =>
    if 0xD800 ≤ n ∧ n < 0xE000 then none else textOfUnits? (Char.ofNat n :: text) rest

/-- The text of a string behind its opening quote, which may be no text, and
the text behind it. -/
def string? (cs : List Char) : Option (Option String × List Char) :=
  (stringUnits? [] cs).map fun (units, rest) => (textOfUnits? [] units, rest)

/-! ## Numbers -/

/-- The whole digits of a number: a zero, or digits that begin with another. -/
def wholeDigits? : List Char → Option (List Char × List Char)
  | '0' :: rest => some (['0'], rest)
  | cs =>
    let digits := cs.takeWhile Char.isDigit
    if digits.isEmpty then none else some (digits, cs.dropWhile Char.isDigit)

def someDigits? (cs : List Char) : Option (List Char × List Char) :=
  let digits := cs.takeWhile Char.isDigit
  if digits.isEmpty then none else some (digits, cs.dropWhile Char.isDigit)

/-- The part of a number behind its point, if it has one. -/
def fraction? : List Char → Option (List Char × List Char)
  | '.' :: cs => (someDigits? cs).map fun (digits, rest) => ('.' :: digits, rest)
  | cs => some ([], cs)

def power? : List Char → Option (List Char × List Char)
  | c :: cs =>
    if c = 'e' ∨ c = 'E' then
      let (sign, cs) := match cs with
        | '+' :: rest => (['+'], rest)
        | '-' :: rest => (['-'], rest)
        | rest => ([], rest)
      (someDigits? cs).map fun (digits, rest) => (c :: sign ++ digits, rest)
    else some ([], c :: cs)
  | [] => some ([], [])

def number? (cs : List Char) : Option (Json × List Char) := do
  let (sign, cs) := match cs with
    | '-' :: rest => (['-'], rest)
    | rest => ([], rest)
  let (whole, cs) ← wholeDigits? cs
  let (fraction, cs) ← fraction? cs
  let (power, cs) ← power? cs
  return (.number (String.ofList (sign ++ whole ++ fraction ++ power)), cs)

/-! ## Values -/

/-- The text behind a word that must come next. -/
def word? (word : List Char) (value : Json) (cs : List Char) : Option (Json × List Char) :=
  if word.isPrefixOf cs then some (value, cs.drop word.length) else none

/-- An object from its members, none of which may have lost its key. -/
def ofMembers (members : List (Option String × Json)) : Json :=
  match members.mapM fun (key, value) => key.map (·, value) with
  | some members => .object members
  | none => .illFormed

mutual

def value? : (fuel : Nat) → List Char → Option (Json × List Char)
  | 0, _ => none
  | fuel + 1, cs =>
    match skipSpace cs with
    | [] => none
    | '"' :: rest =>
      (string? rest).map fun (text, rest) =>
        (match text with | some text => .string text | none => .illFormed, rest)
    | '[' :: rest =>
      match skipSpace rest with
      | ']' :: rest => some (.array [], rest)
      | rest => (elements? fuel [] rest).map fun (elements, rest) => (.array elements, rest)
    | '\x7b' :: rest =>
      match skipSpace rest with
      | '\x7d' :: rest => some (.object [], rest)
      | rest => (members? fuel [] rest).map fun (members, rest) => (ofMembers members, rest)
    | 't' :: rest => word? ['r', 'u', 'e'] (.bool true) rest
    | 'f' :: rest => word? ['a', 'l', 's', 'e'] (.bool false) rest
    | 'n' :: rest => word? ['u', 'l', 'l'] .null rest
    | rest => number? rest

/-- The elements of an array that has at least one more, behind those read
so far in reverse. -/
def elements? : (fuel : Nat) → List Json → List Char → Option (List Json × List Char)
  | 0, _, _ => none
  | fuel + 1, before, cs =>
    match value? fuel cs with
    | none => none
    | some (element, rest) =>
      match skipSpace rest with
      | ',' :: rest => elements? fuel (element :: before) rest
      | ']' :: rest => some ((element :: before).reverse, rest)
      | _ => none

/-- The members of an object that has at least one more, behind those read
so far in reverse. -/
def members? : (fuel : Nat) → List (Option String × Json) → List Char →
    Option (List (Option String × Json) × List Char)
  | 0, _, _ => none
  | fuel + 1, before, cs =>
    match skipSpace cs with
    | '"' :: rest =>
      match string? rest with
      | none => none
      | some (key, rest) =>
        match skipSpace rest with
        | ':' :: rest =>
          match value? fuel rest with
          | none => none
          | some (value, rest) =>
            match skipSpace rest with
            | ',' :: rest => members? fuel ((key, value) :: before) rest
            | '\x7d' :: rest => some (((key, value) :: before).reverse, rest)
            | _ => none
        | _ => none
    | _ => none

end

end Reader

open Reader in
def parse? (cs : List Char) : Option Json :=
  match value? (2 * cs.length + 2) cs with
  | some (value, rest) => if (skipSpace rest).isEmpty then some value else none
  | none => none

end BoardRig.Json
