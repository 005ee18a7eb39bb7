/-
Files in a world.

A program reaches files through a handful of operations, each of which may
fail. A world that holds a file system gives them; relative paths are taken
from one directory, and scratch files get free names in `/tmp`.
-/
import BoardRig.FileSystem.Operations

namespace BoardRig

/-- The files in a world of type `σ`. An open file is known by a number. -/
structure Files (σ : Type) where
  /-- The bytes of the file at a path. -/
  read : String → StateM σ (Except IoError Bytes)
  /-- Open the file at a path for reading. -/
  openSource : String → StateM σ (Except IoError Nat)
  /-- Make an empty file at a path, or empty the one that is there. -/
  create : String → StateM σ (Except IoError Nat)
  /-- What is to be read from an open file. -/
  contents : Nat → StateM σ (Except IoError Bytes)
  /-- Write bytes at the end of an open file. -/
  append : Nat → Bytes → StateM σ (Except IoError Unit)
  /-- Have the bytes of an open file reach its volume. -/
  sync : Nat → StateM σ (Except IoError Unit)
  /-- Put bytes into a new file; yields its path. -/
  scratch : Bytes → StateM σ (Except IoError String)
  /-- Remove a file made by `scratch`. -/
  discard : String → StateM σ Unit

/-- An effect that fails with a failure of input or output, as an action. -/
def Action.ofIo {σ α : Type} (act : StateM σ (Except IoError α)) : Action σ α := fun s =>
  match act s with
  | (.ok a, s) => (.ok a, s)
  | (.error e, s) => (.error (.io e), s)

namespace FileSystem

def scratchDirectory : String := "/tmp"

def scratchName (n : Nat) : String :=
  let digits := (toString n).toList
  "crispy-probe-" ++ String.ofList (List.replicate (6 - digits.length) '0' ++ digits) ++ ".bin"

/-- The first number from `n` on whose name is not among some, looking at most
`fuel` ahead. -/
def freeNumber (names : List String) : (fuel n : Nat) → Nat
  | 0, n => n
  | fuel + 1, n => if scratchName n ∈ names then freeNumber names fuel (n + 1) else n

/-- A path for a scratch file that nothing has. -/
def freeScratchPath (fs : FileSystem) : String :=
  let names := (fs.names scratchDirectory).toOption.getD []
  scratchDirectory ++ "/" ++ scratchName (freeNumber names names.length 0)

end FileSystem

namespace Files

variable {σ : Type}

def looking {α : Type} (get : σ → FileSystem) (look : FileSystem → Except IoError α) :
    StateM σ (Except IoError α) := fun s =>
  (look (get s), s)

/-- A change of the file system that may fail, and then changes nothing. -/
def changing {α : Type} (get : σ → FileSystem) (set : FileSystem → σ → σ)
    (change : FileSystem → Except IoError (FileSystem × α)) : StateM σ (Except IoError α) :=
  fun s =>
    match change (get s) with
    | .ok (fs, a) => (.ok a, set fs s)
    | .error e => (.error e, s)

/-- A path taken from a directory. No path leads nowhere. -/
def within (directory path : String) : String :=
  if path.isEmpty then path else Path.join directory path

/-- The files of the file system that a world holds, for a program that runs
in `directory`. -/
def ofFileSystem (get : σ → FileSystem) (set : FileSystem → σ → σ) (directory : String) :
    Files σ where
  read path := looking get fun fs => fs.read (within directory path)
  openSource path := looking get fun fs => fs.find (within directory path)
  create path := changing get set fun fs => fs.create (within directory path)
  contents id := looking get fun fs => fs.contentOf id
  append id bytes := changing get set fun fs =>
    match fs.refusal? id with
    | some e => .error e
    | none => .ok (fs.append id bytes, ())
  sync id := looking get fun fs =>
    match fs.syncRefusal? id with
    | some e => .error e
    | none => .ok ()
  scratch bytes := changing get set fun fs => do
    let path := fs.freeScratchPath
    return (← fs.write path bytes, path)
  discard path := fun s => ((), set ((get s).remove path) s)

end Files

end BoardRig
