/-
Finding the program that a name leads to.

A name with a slash is a path; any other is looked for in the directories of
the search path, in order. A file that cannot be run counts only if nothing is
found behind it. A file may name another program that runs it.
-/
import BoardRig.Shell.Control

namespace BoardRig.Shell

namespace State

/-- Where programs are looked for if nothing else is said. -/
def usualSearchPath : Octets :=
  "/usr/local/sbin:/usr/local/bin:/usr/sbin:/usr/bin:/sbin:/bin".toList

/-- The directories in which programs are looked for: none if the search path
was taken away. -/
def searchPath (p : State) : List Octets :=
  ((p.value? "PATH").map (Text.split ':')).getD []

/-- The directories in which the system looks for programs on behalf of other
programs, also without a search path. -/
def systemSearchPath (p : State) : List Octets :=
  ((p.value? "PATH").map (Text.split ':')).getD ["/bin".toList, "/usr/bin".toList]

/-- Why what a path leads to cannot be run, if that is so. -/
def refusalAt (p : State) (path : Octets) : Option IoError :=
  match p.files.find (p.pathOf path) with
  | .error e => some e
  | .ok id =>
    match p.files.node? id with
    | some node =>
      match node.content with
      | .file _ | .program _ => if node.isExecutable then none else some .permissionDenied
      | _ => some .permissionDenied
    | none => some .noSuchFile

/-- Whether a failure means that nothing is there. -/
def isAbsence (e : IoError) : Bool := e = .noSuchFile || e = .notADirectory

/-- The first path in some directories at which a program can be run. -/
def searchIn (p : State) (name : Octets) (failure : IoError) : List Octets →
    Except IoError Octets
  | [] => .error failure
  | directory :: rest =>
    let path := if directory.isEmpty then name else directory ++ '/' :: name
    match p.refusalAt path with
    | none => .ok path
    | some e => searchIn p name (if isAbsence e then failure else e) rest

def findProgram (p : State) (directories : List Octets) (name : Octets) : Except IoError Octets :=
  if name.contains '/' then
    match p.refusalAt name with
    | none => .ok name
    | some e => .error e
  else searchIn p name .noSuchFile directories

/-- What runs when a file is run. -/
inductive Executable where
  /-- A program that comes with the machine. -/
  | tool (name : String)
  /-- Another program, with what it gets in front of the path of the file. -/
  | interpreted (program : Octets) (argument : Option Octets)
  /-- A file that says nothing about it. -/
  | text (content : Octets)

/-- Whether an octet separates the words of the first line. -/
def isGap (c : Char) : Bool := c == ' ' || c == '\t'

/-- The program that the first line of a file names, and its argument. -/
def interpreter? (content : Octets) : Option (Octets × Option Octets) :=
  match content with
  | '#' :: '!' :: rest =>
    let line := (rest.takeWhile (· != '\n')).dropWhile isGap
    let line := Text.dropEndWhile isGap line
    let program := line.takeWhile fun c => !isGap c
    let argument := (line.drop program.length).dropWhile isGap
    if program.isEmpty then none
    else some (program, if argument.isEmpty then none else some argument)
  | _ => none

/-- What runs when the file at a path is run. -/
def executableAt (p : State) (path : Octets) : Except IoError Executable := do
  if let some e := p.refusalAt path then throw e
  let id ← p.files.find (p.pathOf path)
  match p.files.content? id with
  | some (.program name) => return .tool name
  | some (.file bytes) =>
    let content := Octets.ofBytes bytes
    match interpreter? content with
    | some (program, argument) => return .interpreted program argument
    | none => return .text content
  | _ => throw .permissionDenied

end State

end BoardRig.Shell
