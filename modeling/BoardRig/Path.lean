/-
Paths as texts: their parts, their last name, and joining two of them.

Parts stand between slashes; empty parts and a single dot name nothing. The
last name of a path is its last part, unless that leads back to the parent.
-/
import BoardRig.Text.Blank

namespace BoardRig.Path

def isAbsolute (path : String) : Bool :=
  path.toList.head? == some '/'

def parts (path : String) : List String :=
  ((Text.split '/' path.toList).map String.ofList).filter fun p => p != "" && p != "."

def fileName? (path : String) : Option String :=
  match (parts path).getLast? with
  | some ".." => none
  | last => last

/-- The path `path` taken from the directory `base`. -/
def join (base path : String) : String :=
  if isAbsolute path then path
  else if base.isEmpty || base.toList.getLast? == some '/' then base ++ path
  else base ++ "/" ++ path

end BoardRig.Path
