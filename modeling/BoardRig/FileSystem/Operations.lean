/-
What programs do with paths: reading and creating files, listing and making
directories, links.
-/
import BoardRig.FileSystem.Place

namespace BoardRig.FileSystem

/-! ## Looking

Paths are followed through links to a node, which need not be a file. -/

def exists? (fs : FileSystem) (path : String) : Bool :=
  (fs.find path).toOption.isSome

def isFile (fs : FileSystem) (path : String) : Bool :=
  match (fs.find path).toOption.bind fs.content? with
  | some (.file _) | some (.program _) => true
  | _ => false

def isDirectory (fs : FileSystem) (path : String) : Bool :=
  match (fs.find path).toOption.bind fs.content? with
  | some (.directory _) => true
  | _ => false

def read (fs : FileSystem) (path : String) : Except IoError Bytes := do
  fs.contentOf (← fs.find path)

def readText (fs : FileSystem) (path : String) : Except IoError String := do
  match Utf8.decode? (← fs.read path) with
  | some text => .ok (String.ofList text)
  | none => .error .notText

/-- The names in the directory at a path, in the order of the table. -/
def names (fs : FileSystem) (path : String) : Except IoError (List String) := do
  let id ← fs.find path
  match fs.content? id with
  | some (.directory entries) => .ok (entries.map (·.1))
  | _ => .error .notADirectory

/-! ## Creating

A path may lead to a name that is free, and then the file is made there. -/

/-- The file that a place becomes when it is opened for writing. A file that
is there is emptied if `emptied` asks for it. -/
def openPlace (fs : FileSystem) (emptied : Bool) : Place → Except IoError (FileSystem × Nat)
  | .vacant directory name =>
    match fs.content? directory with
    | some (.directory _) => .ok (fs.insert directory name (.ofBytes [] false))
    | _ => .error .noSuchFile
  | .node id =>
    match fs.content? id with
    | some (.directory _) => .error .isADirectory
    | some (.device .terminal) => .error .noSuchDevice
    | some (.link _) | none => .error .noSuchFile
    | _ => .ok (if emptied then fs.truncate id else fs, id)

/-- Open the file at a path for writing; it is made if it is not there. -/
def openForWriting (fs : FileSystem) (emptied : Bool) (path : String) :
    Except IoError (FileSystem × Nat) := do
  check path
  if endsInSlash path then
    let _ ← follow fs linkLimit [root] (partsOf path)
    .error .isADirectory
  else
    fs.openPlace emptied (← follow fs linkLimit [root] (partsOf path))

/-- Make an empty file at a path, or empty the one that is there. -/
def create (fs : FileSystem) (path : String) : Except IoError (FileSystem × Nat) :=
  fs.openForWriting true path

def write (fs : FileSystem) (path : String) (content : Bytes) : Except IoError FileSystem := do
  let (fs, id) ← fs.create path
  return fs.append id content

def makeNode (fs : FileSystem) (path : String) (node : Node) : Except IoError FileSystem := do
  check path
  match ← follow fs linkLimit [root] (partsOf path) with
  | .vacant directory name => .ok (fs.insert directory name node).1
  | .node _ => .error .alreadyExists

def parentOf (path : String) : String :=
  "/" ++ String.intercalate "/" (partsOf path).dropLast

/-- Make the directories along some parts, from a directory on. -/
def makeDirectoriesFrom (fs : FileSystem) (base : String) : List String → Except IoError FileSystem
  | [] => .ok fs
  | part :: rest => do
    let path := Path.join base part
    let fs ← if fs.isDirectory path then .ok fs else fs.makeNode path .emptyDirectory
    fs.makeDirectoriesFrom path rest

/-- Make a directory, and those on the way to it. -/
def makeDirectories (fs : FileSystem) (path : String) : Except IoError FileSystem :=
  fs.makeDirectoriesFrom "/" (partsOf path)

/-- Put a file at a path, and the directories on the way to it. -/
def install (fs : FileSystem) (path : String) (content : Bytes) (executable : Bool) :
    Except IoError FileSystem := do
  let fs ← fs.makeDirectories (parentOf path)
  let (fs, id) ← fs.create path
  return fs.modify id fun _ => { Node.ofBytes content executable with modified := fs.now }

/-! ## Names

Here a link at the end of a path is meant itself, and so is the name in place of the
node. -/

/-- The directory that the name at the end of a path is in, and that name. -/
def lastName? (fs : FileSystem) (path : String) : Option (Nat × String) :=
  match fs.find (parentOf path), (partsOf path).getLast? with
  | .ok directory, some name => some (directory, name)
  | _, _ => none

/-- The node that a path names, where a link at its end stands for itself. -/
def findName (fs : FileSystem) (path : String) : Except IoError Nat :=
  if endsInSlash path then fs.find path
  else
    match fs.lastName? path with
    | some (directory, name) =>
      if name = "." || name = ".." then fs.find path
      else
        match fs.entry? directory name with
        | some id => .ok id
        | none => fs.find path
    | none => fs.find path

def remove (fs : FileSystem) (path : String) : FileSystem :=
  match fs.lastName? path with
  | some (directory, name) => fs.erase directory name
  | none => fs

def setMode (fs : FileSystem) (path : String) (mode : Nat) : Except IoError FileSystem := do
  let id ← fs.find path
  return fs.modify id ({ · with mode })

/-- Note that what a path leads to was changed at some time. -/
def stamp (fs : FileSystem) (path : String) (time : Nat) : Except IoError FileSystem := do
  let id ← fs.find path
  return fs.modify id ({ · with modified := time })

end BoardRig.FileSystem
