/-
Names of nodes: taking them away, giving new ones and moving them.

A link at the end of a path stands for itself here. A directory has one name
only, and goes only when it is empty.
-/
import BoardRig.FileSystem.Operations

namespace BoardRig.FileSystem

/-- The directory that a name is in, the name, and the node that has it. -/
structure Spot where
  directory : Nat
  name : String
  node : Option Nat

def spot (fs : FileSystem) (path : String) : Except IoError Spot := do
  check path
  match (partsOf path).getLast? with
  | none => .error .sameFile
  | some name =>
    if name = "." then .error .invalidArgument
    else if name = ".." then .error .notEmpty
    else
      let directory ← fs.find (parentOf path)
      match fs.content? directory with
      | some (.directory _) =>
        if nameLimit < name.utf8ByteSize then .error .nameTooLong
        else .ok ⟨directory, name, fs.entry? directory name⟩
      | _ => .error .notADirectory

def Spot.found (s : Spot) : Except IoError Nat :=
  match s.node with
  | some id => .ok id
  | none => .error .noSuchFile

def isDirectoryNode (fs : FileSystem) (id : Nat) : Bool :=
  match fs.content? id with
  | some (.directory _) => true
  | _ => false

/-- Take a name away from what is no directory. -/
def unlink (fs : FileSystem) (path : String) : Except IoError FileSystem := do
  let s ← fs.spot path
  let id ← s.found
  if fs.isDirectoryNode id then .error .isADirectory
  else if endsInSlash path then .error .notADirectory
  else .ok (fs.erase s.directory s.name)

def removeDirectory (fs : FileSystem) (path : String) : Except IoError FileSystem := do
  let s ← fs.spot path
  let id ← s.found
  if !fs.isDirectoryNode id then .error .notADirectory
  else if !(fs.entries id).isEmpty then .error .notEmpty
  else .ok (fs.erase s.directory s.name)

def addName (fs : FileSystem) (id : Nat) (path : String) : Except IoError FileSystem := do
  let s ← fs.spot path
  match s.node with
  | some _ => .error .alreadyExists
  | none => .ok (fs.bind s.directory s.name id)

/-- Whether a node is a directory on the way from the root to another one. -/
def contains (fs : FileSystem) (outer : Nat) : (fuel : Nat) → (inner : Nat) → Bool
  | 0, _ => false
  | fuel + 1, inner =>
    inner == outer || (inner != root &&
      match fs.nodes.find? fun (_, n) =>
        match n.content with
        | .directory entries => entries.any fun e => e.2 == inner
        | _ => false with
      | some (directory, _) => contains fs outer fuel directory
      | none => false)

/-- Give what has a name another one, in place of what has that. -/
def rename (fs : FileSystem) (source target : String) : Except IoError FileSystem := do
  let s ← fs.spot source
  let id ← s.found
  let t ← fs.spot target
  let isDirectory := fs.isDirectoryNode id
  if isDirectory && fs.contains id (fs.nodes.length + 1) t.directory then
    .error .invalidArgument
  else if !isDirectory && (endsInSlash target || endsInSlash source) then .error .notADirectory
  else
    match t.node with
    | none => .ok ((fs.erase s.directory s.name).bind t.directory t.name id)
    | some old =>
      if old = id then .ok fs
      else if isDirectory && !fs.isDirectoryNode old then .error .notADirectory
      else if !isDirectory && fs.isDirectoryNode old then .error .isADirectory
      else if isDirectory && !(fs.entries old).isEmpty then .error .notEmpty
      else
        let fs := (fs.erase t.directory t.name).erase s.directory s.name
        .ok (fs.bind t.directory t.name id)

end BoardRig.FileSystem
