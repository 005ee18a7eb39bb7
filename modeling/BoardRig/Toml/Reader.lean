/-
The lines of a TOML document.

A line is empty, or it gives a value to a key, or it is the header of a table
or of an element of a list of tables; a comment may follow on it. A key has
one or more parts between points. Values and keys nest less than eighty deep.
-/
import BoardRig.Toml.Document
import BoardRig.Toml.Quoted
import BoardRig.Toml.Scalar

namespace BoardRig.Toml

def dropSpace (cs : List Char) : List Char :=
  cs.dropWhile isSpace

/-- How deep keys and values may not nest. -/
def nestingLimit : Nat := 80

/-! ## Keys -/

/-- Whether a character may stand in a key without marks. -/
def isBare (c : Char) : Bool :=
  c.isAlphanum || c == '_' || c == '-'

def keyPart? (cs : List Char) : Option (String × List Char) :=
  match cs with
  | '"' :: _ | '\'' :: _ => quotedOnLine? cs
  | cs =>
    let bare := cs.takeWhile isBare
    if bare.isEmpty then none else some (String.ofList bare, cs.dropWhile isBare)

def keyParts? : (fuel : Nat) → List Char → Option (List String × List Char)
  | 0, _ => none
  | fuel + 1, cs => do
    let (part, rest) ← keyPart? (dropSpace cs)
    match dropSpace rest with
    | '.' :: rest => do
      let (parts, rest) ← keyParts? fuel rest
      return (part :: parts, rest)
    | rest => some ([part], rest)

def key? (cs : List Char) : Option (Key × List Char) := do
  let (parts, rest) ← keyParts? nestingLimit cs
  let name ← parts.getLast?
  if parts.length < nestingLimit then some (⟨parts.dropLast, name⟩, rest) else none

/-! ## Comments -/

/-- The text behind a comment, if one comes next. -/
def dropComment : List Char → List Char
  | '#' :: rest => rest.dropWhile isPrintable
  | rest => rest

/-- The text behind spaces, line breaks and comments. -/
def dropFiller : (fuel : Nat) → List Char → List Char
  | 0, cs => cs
  | fuel + 1, cs =>
    match behindBreak? (dropComment (dropSpace cs)) with
    | some rest => dropFiller fuel rest
    | none => dropSpace cs

/-- The text of the next line; nothing but a comment may end this one. -/
def nextLine? (cs : List Char) : Option (List Char) :=
  match dropComment (dropSpace cs) with
  | [] => some []
  | rest => behindBreak? rest

/-! ## Values -/

mutual

/-- The value at the front of a text, where `depth` more may be open. -/
def value? : (fuel depth : Nat) → List Char → Option (Value × List Char)
  | 0, _, _ => none
  | fuel + 1, depth, cs =>
    match cs with
    | '"' :: _ | '\'' :: _ => (quoted? cs).map fun (text, rest) => (.text text, rest)
    | '[' :: rest =>
      match depth with
      | 0 => none
      | depth + 1 => elements? fuel depth [] rest
    | '\x7b' :: rest =>
      match depth with
      | 0 => none
      | depth + 1 =>
        match dropSpace rest with
        | '\x7d' :: rest => some (.table .closed [], rest)
        | rest => members? fuel depth [] rest
    | cs => scalar? cs

/-- The list whose elements so far are in `before`, in reverse. -/
def elements? : (fuel depth : Nat) → (before : List Value) → List Char → Option (Value × List Char)
  | 0, _, _, _ => none
  | fuel + 1, depth, before, cs =>
    match dropFiller cs.length cs with
    | ']' :: rest => some (.array before.reverse, rest)
    | cs =>
      match value? fuel depth cs with
      | none => none
      | some (element, rest) =>
        match dropFiller rest.length rest with
        | ',' :: rest => elements? fuel depth (element :: before) rest
        | ']' :: rest => some (.array (element :: before).reverse, rest)
        | _ => none

/-- The table in braces that has at least one more entry behind those in
`entries`. -/
def members? : (fuel depth : Nat) → (entries : Entries) → List Char → Option (Value × List Char)
  | 0, _, _, _ => none
  | fuel + 1, depth, entries, cs =>
    match key? cs with
    | some (key, '=' :: rest) =>
      match value? fuel depth (dropSpace rest) with
      | none => none
      | some (value, rest) =>
        match entries.add? .closed key value, dropSpace rest with
        | some entries, ',' :: rest => members? fuel depth entries rest
        | some entries, '\x7d' :: rest => some (.table .closed entries, rest)
        | _, _ => none
    | _ => none

end

/-! ## Lines -/

/-- A statement, and the text behind it on its line. -/
def statement? (cs : List Char) : Option (Statement × List Char) :=
  match cs with
  | '[' :: '[' :: rest =>
    match key? rest with
    | some (key, ']' :: ']' :: rest) => some (.element key, rest)
    | _ => none
  | '[' :: rest =>
    match key? rest with
    | some (key, ']' :: rest) => some (.header key, rest)
    | _ => none
  | cs =>
    match key? cs with
    | some (key, '=' :: rest) =>
      (value? (2 * rest.length + 2) (nestingLimit - 1) (dropSpace rest)).map fun (value, rest) =>
        (.entry key value, rest)
    | _ => none

def statements? : (fuel : Nat) → List Char → Option (List Statement)
  | 0, _ => none
  | fuel + 1, cs =>
    match dropFiller cs.length cs with
    | [] => some []
    | '#' :: rest => if (rest.dropWhile isPrintable).isEmpty then some [] else none
    | cs => do
      let (statement, rest) ← statement? cs
      let statements ← statements? fuel (← nextLine? rest)
      return statement :: statements

/-- The document that a text holds; a byte order mark may precede it. -/
def parse? (cs : List Char) : Option Value := do
  let cs := match cs with
    | '\uFEFF' :: rest => rest
    | rest => rest
  return .table .header (← Entries.ofStatements? (← statements? (cs.length + 1) cs))

end BoardRig.Toml
