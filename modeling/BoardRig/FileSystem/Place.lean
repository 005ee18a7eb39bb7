/-
Where a path leads.

A path is followed part by part from the root. A dot stays, two dots lead to
the directory that the way came through, and a symbolic link is replaced by
the path it holds, at most forty times. The way ends at a node, or at a free
name in a directory that exists.
-/
import BoardRig.FileSystem.Node
import BoardRig.Path

namespace BoardRig.FileSystem

/-- The end of a path. -/
inductive Place where
  | node (id : Nat)
  | vacant (directory : Nat) (name : String)
deriving DecidableEq, Repr

/-- How many links are followed on one way. -/
def linkLimit : Nat := 40

/-- The longest name, in bytes. -/
def nameLimit : Nat := 255

/-- The longest path, in bytes. -/
def pathLimit : Nat := 4095

def endsInSlash (path : String) : Bool :=
  path.toList.getLast? == some '/'

def partsOf (path : String) : List String :=
  ((Text.split '/' path.toList).map String.ofList).filter (· != "")

/-- The parts of a path; a slash at its end asks for a directory. -/
def stepsOf (path : String) : List String :=
  if endsInSlash path then partsOf path ++ ["."] else partsOf path

/-- Follow parts from a directory. `trail` holds that directory and those on
the way to it, the nearest first. -/
def follow (fs : FileSystem) (links : Nat) (trail : List Nat) (parts : List String) :
    Except IoError Place :=
  match parts with
  | [] => .ok (.node (trail.head?.getD root))
  | part :: rest =>
    if part = "." then follow fs links trail rest
    else if part = ".." then
      follow fs links (if trail.tail.isEmpty then trail else trail.tail) rest
    else if nameLimit < part.utf8ByteSize then .error .nameTooLong
    else
      let here := trail.head?.getD root
      match fs.entry? here part with
      | none => if rest.isEmpty then .ok (.vacant here part) else .error .noSuchFile
      | some id =>
        match fs.content? id with
        | some (.directory _) => follow fs links (id :: trail) rest
        | some (.link target) =>
          match links with
          | 0 => .error .tooManyLinks
          | links + 1 =>
            follow fs links (if Path.isAbsolute target then [root] else trail)
              (stepsOf target ++ rest)
        | _ => if rest.isEmpty then .ok (.node id) else .error .notADirectory
termination_by (links, parts.length)

/-- Whether a path can be given to the system at all. -/
def check (path : String) : Except IoError Unit :=
  if path.toList.contains '\x00' then .error .nulInPath
  else if path.isEmpty then .error .noSuchFile
  else if pathLimit < path.utf8ByteSize then .error .nameTooLong
  else .ok ()

def place (fs : FileSystem) (path : String) : Except IoError Place := do
  check path
  follow fs linkLimit [root] (stepsOf path)

def find (fs : FileSystem) (path : String) : Except IoError Nat := do
  match ← fs.place path with
  | .node id => .ok id
  | .vacant _ _ => .error .noSuchFile

end BoardRig.FileSystem
