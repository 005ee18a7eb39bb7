/-
JSON documents as values, and reading a record out of one.

A number stays the literal that was written, since its readers accept whole
numbers only. A string whose escapes leave half of a surrogate pair over has
no text; it can be skipped but not read, and neither can an object with such
a key.

A record is given as an object, where unknown members are skipped and a known
member may come only once, or as an array of its fields in order, where
trailing fields may be missing and nothing may follow them.
-/
namespace BoardRig

/-- A JSON value. -/
inductive Json where
  | null
  | bool (value : Bool)
  | number (literal : String)
  | string (text : String)
  | array (elements : List Json)
  | object (members : List (String × Json))
  /-- A value that can be skipped but not read. -/
  | illFormed
deriving Inhabited, Repr

namespace Json

def nat (n : Nat) : Json := .number (toString n)

/-- A value or `null`. -/
def orNull : Option Json → Json
  | some j => j
  | none => .null

def string? : Json → Option String
  | .string text => some text
  | _ => none

/-- A string or `null`. -/
def nullableString? : Json → Option (Option String)
  | .string text => some (some text)
  | .null => some none
  | _ => none

def nat? : Json → Option Nat
  | .number literal =>
    let digits := literal.toList
    if digits.all Char.isDigit then some (digits.foldl (fun n c => n * 10 + (c.toNat - 48)) 0)
    else none
  | _ => none

/-- A whole number without a sign that fits into `bits` bits. -/
def word? (bits : Nat) (j : Json) : Option Nat :=
  j.nat?.filter (· < Nat.pow 2 bits)

def array? : Json → Option (List Json)
  | .array elements => some elements
  | _ => none

def valuesOf (key : String) (members : List (String × Json)) : List Json :=
  (members.filter (·.1 == key)).map (·.2)

/-- The one member with a given key, if there is at most one. -/
def atMostOne? (key : String) (members : List (String × Json)) : Option (Option Json) :=
  match valuesOf key members with
  | [] => some none
  | [value] => some (some value)
  | _ => none

/-- The fields of a record, one for each of `names`; a field may be missing. -/
def fields? (names : List String) : Json → Option (List (Option Json))
  | .object members => names.mapM (atMostOne? · members)
  | .array elements =>
    if elements.length ≤ names.length then
      some (elements.map some ++ List.replicate (names.length - elements.length) none)
    else none
  | _ => none

def field? {α : Type} (read : Json → Option α) (default : α) : Option Json → Option α
  | none => some default
  | some j => read j

/-- How many containers may be open around a value that is read. -/
def nestingLimit : Nat := 127

end Json

end BoardRig
