/-
A TOML document as statements, and the table that they make together.

A header opens a table for the entries that follow it; the tables on the way
to it are made where they are missing. A table can be opened once, unless it
was only on the way so far. An entry with a dotted key belongs to a table
further down, which is made for it or was made for another dotted key; what a
header opened stays closed to dotted keys from above. No entry is given twice.
-/
import BoardRig.Toml.Value

namespace BoardRig.Toml

/-- The way to a table, and a name in it. -/
structure Key where
  path : List String
  name : String
deriving DecidableEq, Repr

/-- What a line of a document says. -/
inductive Statement where
  | entry (key : Key) (value : Value)
  /-- The table that the next entries belong to. -/
  | header (key : Key)
  /-- A further table of a list, which the next entries belong to. -/
  | element (key : Key)
deriving Repr

namespace Origin

/-- Whether the way to another table may lead through a table. -/
def mayPass (byDots : Bool) : Origin → Bool
  | .header => !byDots
  | .implied | .dotted => true
  | .closed => false

/-- The origin of a table that is made on the way to another. -/
def onTheWay (byDots : Bool) : Origin :=
  if byDots then .dotted else .implied

end Origin

/-- The value with its entries changed, if it is a table that may be passed.
A list of tables stands for its last one. -/
def Value.pass? (byDots : Bool) (change : Origin → Entries → Option Entries) (v : Value) : Option Value :=
  match v with
  | .table origin entries =>
    if origin.mayPass byDots then (change origin entries).map (.table origin) else none
  | .tables elements =>
    match elements.getLast? with
    | some last => (change .header last).map fun last => .tables (elements.dropLast ++ [last])
    | none => none
  | _ => none

namespace Entries

/-- The entries with another value for a name that they have. -/
def replace (name : String) (value : Value) (entries : Entries) : Entries :=
  entries.map fun entry => if entry.1 = name then (name, value) else entry

/-- The entries after a change to the table at the end of a path. -/
def changeAt? (byDots : Bool) (change : Origin → Entries → Option Entries) :
    (path : List String) → Origin → Entries → Option Entries
  | [], origin, entries => change origin entries
  | name :: path, _, entries =>
    match entries.lookup name with
    | some value =>
      (value.pass? byDots (changeAt? byDots change path)).map fun value =>
        replace name value entries
    | none =>
      let origin := Origin.onTheWay byDots
      (changeAt? byDots change path origin []).map fun made =>
        entries ++ [(name, .table origin made)]

/-- The entries of a table with one more at the end of a key. A key without
points belongs to a table that was not made by one, a dotted key to one that
was. -/
def add? (origin : Origin) (key : Key) (value : Value) (entries : Entries) : Option Entries :=
  let insert (origin : Origin) (entries : Entries) : Option Entries :=
    if (origin == .dotted) == key.path.isEmpty then none
    else if (entries.lookup key.name).isSome then none
    else some (entries ++ [(key.name, value)])
  changeAt? true insert key.path origin entries

def openTable? (key : Key) (entries : Entries) : Option Entries :=
  let insert (_ : Origin) (entries : Entries) : Option Entries :=
    match entries.lookup key.name with
    | none => some (entries ++ [(key.name, .table .header [])])
    | some (.table .implied inner) => some (replace key.name (.table .header inner) entries)
    | some _ => none
  changeAt? false insert key.path .header entries

/-- The entries of the document with a further table in a list. -/
def openElement? (key : Key) (entries : Entries) : Option Entries :=
  let insert (_ : Origin) (entries : Entries) : Option Entries :=
    match entries.lookup key.name with
    | none => some (entries ++ [(key.name, .tables [[]])])
    | some (.tables elements) => some (replace key.name (.tables (elements ++ [[]])) entries)
    | some _ => none
  changeAt? false insert key.path .header entries

/-- The entries of a document after its statements, where entries belong to
the table at the end of `current`. -/
def follow? (current : List String) (entries : Entries) : List Statement → Option Entries
  | [] => some entries
  | .entry key value :: rest => do
    let entries ← changeAt? false (fun origin table => table.add? origin key value) current .header
      entries
    follow? current entries rest
  | .header key :: rest => do
    follow? (key.path ++ [key.name]) (← openTable? key entries) rest
  | .element key :: rest => do
    follow? (key.path ++ [key.name]) (← openElement? key entries) rest

def ofStatements? (statements : List Statement) : Option Entries :=
  follow? [] [] statements

end Entries

end BoardRig.Toml
