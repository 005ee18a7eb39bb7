/-
What a file system has that another has not.

The path of a node is found by climbing from it to the root directory. The
climb is bounded by the number of nodes, which no way to the root exceeds.
-/
import BoardRig.FileSystem.Node
import BoardRig.Path

namespace BoardRig.FileSystem

/-- The directory that has a node as an entry, and the name of the entry. -/
def holder? (fs : FileSystem) (id : Nat) : Option (Nat × String) :=
  fs.nodes.findSome? fun (directory, node) =>
    match node.content with
    | .directory entries =>
      (entries.find? (·.2 == id)).map fun entry => (directory, entry.1)
    | _ => none

/-- The path of a node that lies at most `depth` directories deep. -/
def pathWithin (fs : FileSystem) : (depth : Nat) → (id : Nat) → Option String
  | 0, _ => none
  | depth + 1, id =>
    if id = root then some "/"
    else do
      let (directory, name) ← fs.holder? id
      return Path.join (← fs.pathWithin depth directory) name

def path? (fs : FileSystem) (id : Nat) : Option String :=
  fs.pathWithin (fs.nodes.length + 1) id

/-- Whether a node of another file system is a file with these bytes. -/
def holds (fs : FileSystem) (id : Nat) (content : Bytes) : Bool :=
  match fs.content? id with
  | some (.file old) => old == content
  | _ => false

/-- The files that are new or have other bytes than before, by path. -/
def changesSince (fs before : FileSystem) : List (String × Bytes) :=
  fs.nodes.filterMap fun (id, node) =>
    match node.content with
    | .file content =>
      if before.holds id content then none else (fs.path? id).map (·, content)
    | _ => none

end BoardRig.FileSystem
