/-
A file system as a table of numbered nodes.

A node is a file with its bytes, a program that comes with the machine, a
directory with its entries, a symbolic link with the path it holds, or a
device. It has permissions and the time of its last change. Node 0 is the
root directory. A node stays in the table when its last name is removed, so
that an open file stays the same file whatever happens to its names.
-/
import BoardRig.Error
import BoardRig.Text.Utf8

namespace BoardRig

/-- What stands for itself in the directory of devices. -/
inductive Device where
  /-- Takes everything and gives nothing. -/
  | null
  /-- Takes everything and gives zeros without end. -/
  | zero
  /-- Takes nothing and gives zeros without end. -/
  | full
  /-- The terminal, which programs do not have. -/
  | terminal
  /-- An open file of the program that asks, by its descriptor. -/
  | descriptor (n : Nat)
deriving DecidableEq, Repr

/-- What a path can lead to. -/
inductive Content where
  | file (bytes : Bytes)
  /-- A program that comes with the machine. -/
  | program (name : String)
  | directory (entries : List (String × Nat))
  | link (target : String)
  | device (device : Device)
deriving Repr

/-- A node: what it is, its permissions, and when it was changed last. -/
structure Node where
  content : Content
  mode : Nat
  modified : Nat := 0
deriving Repr

namespace Node

def fileMode : Nat := 0o644

/-- The permissions of files that can be run, and of new directories. -/
def openMode : Nat := 0o755

def ofBytes (bytes : Bytes) (executable : Bool) : Node :=
  ⟨.file bytes, if executable then openMode else fileMode, 0⟩

def emptyDirectory : Node := ⟨.directory [], openMode, 0⟩

def link (target : String) : Node := ⟨.link target, 0o777, 0⟩

def device (d : Device) : Node := ⟨.device d, 0o666, 0⟩

def isExecutable (n : Node) : Bool := n.mode &&& 0o111 != 0

end Node

/-- A table of nodes, and the time that changes are made at, in nanoseconds. -/
structure FileSystem where
  nodes : List (Nat × Node)
  now : Nat
deriving Repr

namespace FileSystem

/-- The time at which the clock of a machine starts. -/
def beginning : Nat := 1750000000 * Nat.pow 10 9

/-- How far apart two changes are at least whose times differ. -/
def tick : Nat := 4 * Nat.pow 10 6

/-- The table when some time has passed since the clock started. -/
def atTime (fs : FileSystem) (time : Nat) : FileSystem :=
  { fs with now := beginning + time / tick * tick }

def root : Nat := 0

def empty : FileSystem := ⟨[(root, .emptyDirectory)], beginning⟩

def node? (fs : FileSystem) (id : Nat) : Option Node :=
  fs.nodes.lookup id

def content? (fs : FileSystem) (id : Nat) : Option Content :=
  (fs.node? id).map (·.content)

def entries (fs : FileSystem) (id : Nat) : List (String × Nat) :=
  match fs.content? id with
  | some (.directory entries) => entries
  | _ => []

def entry? (fs : FileSystem) (directory : Nat) (name : String) : Option Nat :=
  (fs.entries directory).lookup name

def fresh (fs : FileSystem) : Nat :=
  fs.nodes.foldl (fun n (id, _) => max n id) 0 + 1

/-- The table with a change to the node under a number. -/
def modify (fs : FileSystem) (id : Nat) (change : Node → Node) : FileSystem :=
  { fs with nodes := fs.nodes.map fun (n, node) => if n = id then (n, change node) else (n, node) }

/-- The table with another content for the node under a number. -/
def replace (fs : FileSystem) (id : Nat) (content : Content) : FileSystem :=
  fs.modify id fun node => { node with content, modified := fs.now }

def bind (fs : FileSystem) (directory : Nat) (name : String) (id : Nat) : FileSystem :=
  fs.replace directory (.directory (fs.entries directory ++ [(name, id)]))

/-- The table with a new node under a name in a directory. -/
def insert (fs : FileSystem) (directory : Nat) (name : String) (node : Node) : FileSystem × Nat :=
  let id := fs.fresh
  let linked := fs.bind directory name id
  ({ linked with nodes := linked.nodes ++ [(id, { node with modified := fs.now })] }, id)

def erase (fs : FileSystem) (directory : Nat) (name : String) : FileSystem :=
  fs.replace directory (.directory ((fs.entries directory).filter (·.1 != name)))

def contentOf (fs : FileSystem) (id : Nat) : Except IoError Bytes :=
  match fs.content? id with
  | some (.file bytes) => .ok bytes
  | some (.program _) | some (.device _) => .ok []
  | some (.directory _) => .error .isADirectory
  | _ => .error .noSuchFile

/-- The table after bytes were written into an open file from some place on;
zeros fill what is missing before them. -/
def writeAt (fs : FileSystem) (id place : Nat) (bytes : Bytes) : FileSystem :=
  match fs.content? id with
  | some (.file old) =>
    let before := old.take place
    let gap := List.replicate (place - old.length) 0
    fs.replace id (.file (before ++ gap ++ bytes ++ old.drop (place + bytes.length)))
  | _ => fs

/-- The table after bytes were written at the end of an open file. -/
def append (fs : FileSystem) (id : Nat) (bytes : Bytes) : FileSystem :=
  match fs.content? id with
  | some (.file old) => fs.replace id (.file (old ++ bytes))
  | _ => fs

/-- The table after an open file was emptied; a program that is emptied is a
file like any other. -/
def truncate (fs : FileSystem) (id : Nat) : FileSystem :=
  match fs.content? id with
  | some (.file _) | some (.program _) => fs.replace id (.file [])
  | _ => fs

/-- The failure to write into an open file, if there is one. -/
def refusal? (fs : FileSystem) (id : Nat) : Option IoError :=
  match fs.content? id with
  | some (.device .full) => some .noSpace
  | _ => none

/-- The failure to have the bytes of an open file reach its volume. -/
def syncRefusal? (fs : FileSystem) (id : Nat) : Option IoError :=
  match fs.content? id with
  | some (.device _) => some .invalidArgument
  | _ => none

end FileSystem

end BoardRig
