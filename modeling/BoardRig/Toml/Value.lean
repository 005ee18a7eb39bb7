/-
TOML values, and reading a record out of one.

A table remembers how it came to be, since that decides what a later line may
still add to it. A date or a time stays the literal that was written.

A record is given as a table, where unknown entries are skipped, or as a list
of its fields in order, where further elements are skipped. A date or a time
is a record as well, with a single field that nobody asks for.
-/
import BoardRig.Decimal.Binary64

namespace BoardRig.Toml

/-- How a table came to be. -/
inductive Origin where
  /-- By a header, or as the document itself. -/
  | header
  /-- On the way to the table of a longer header. -/
  | implied
  /-- On the way of a dotted key. -/
  | dotted
  /-- As a value in braces, complete as it stands. -/
  | closed
deriving DecidableEq, Repr

/-- A TOML value. -/
inductive Value where
  | text (value : String)
  | integer (value : Int)
  | float (value : Decimal.Binary64)
  | boolean (value : Bool)
  | moment (literal : String)
  | array (elements : List Value)
  /-- The tables of headers in double brackets. -/
  | tables (elements : List (List (String × Value)))
  | table (origin : Origin) (entries : List (String × Value))
deriving Inhabited, Repr

abbrev Entries := List (String × Value)

namespace Value

def text? : Value → Option String
  | .text value => some value
  | _ => none

/-- A whole number that is not negative and fits into `bits` bits. -/
def word? (bits : Nat) : Value → Option Nat
  | .integer (.ofNat n) => if n < Nat.pow 2 bits then some n else none
  | _ => none

def elements? : Value → Option (List Value)
  | .array elements => some elements
  | .tables elements => some (elements.map (.table .header ·))
  | _ => none

def texts? (v : Value) : Option (List String) := do
  (← v.elements?).mapM text?

/-- The fields of a record, one for each of `names`; a field may be missing. -/
def fields? (names : List String) (v : Value) : Option (List (Option Value)) :=
  match v with
  | .table _ entries => some (names.map (entries.lookup ·))
  | .moment _ => some (names.map fun _ => none)
  | v => do
    let given := (← v.elements?).take names.length
    return given.map some ++ List.replicate (names.length - given.length) none

/-- The fields of a record that has no defaults for the end of a list. -/
def wholeFields? (names : List String) (v : Value) : Option (List (Option Value)) := do
  let fields ← v.fields? names
  match v.elements? with
  | some elements => if elements.length < names.length then none else some fields
  | none => some fields

end Value

end BoardRig.Toml
