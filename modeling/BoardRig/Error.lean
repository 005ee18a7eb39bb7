/-
What can go wrong, by kind.

An error is a kind with the text that tells what happened. Callers branch on
the kind alone: a volume or port that never appeared, a wait that expired,
and a faulty configuration leave the program with codes of their own. The
full message puts the name of the kind in front.
-/
namespace BoardRig

/-- The kinds of input and output failures that behave differently. -/
inductive IoKind where
  | notFound
  | timedOut
  | wouldBlock
  | interrupted
  | other
deriving DecidableEq, Repr

/-- A failure of a file, a pipe or a port. -/
structure IoError where
  kind : IoKind
  text : String
deriving DecidableEq, Repr

namespace IoError

/-- A failure that the operating system reports by number. -/
def system (kind : IoKind) (meaning : String) (number : Nat) : IoError :=
  ⟨kind, s!"{meaning} (os error {number})"⟩

def noSuchFile : IoError := system .notFound "No such file or directory" 2
def noSuchProgram : IoError := noSuchFile
def permissionDenied : IoError := system .other "Permission denied" 13
def alreadyExists : IoError := system .other "File exists" 17
def notADirectory : IoError := system .other "Not a directory" 20
def isADirectory : IoError := system .other "Is a directory" 21
def nameTooLong : IoError := system .other "File name too long" 36
def tooManyLinks : IoError := system .other "Too many levels of symbolic links" 40
def execFormat : IoError := system .other "Exec format error" 8
def invalidArgument : IoError := system .other "Invalid argument" 22
def noSpace : IoError := system .other "No space left on device" 28
def noSuchDevice : IoError := system .other "No such device or address" 6
def notEmpty : IoError := system .other "Directory not empty" 39
def sameFile : IoError := system .other "Device or resource busy" 16
def badDescriptor : IoError := system .other "Bad file descriptor" 9

/-- A path that the operating system cannot be given. -/
def nulInPath : IoError := ⟨.other, "file name contained an unexpected NUL byte"⟩

/-- An argument that the operating system cannot be given. -/
def nulInArgument : IoError := ⟨.other, "nul byte found in provided data"⟩

/-- A file read as text that is not well-formed. -/
def notText : IoError := ⟨.other, "stream did not contain valid UTF-8"⟩

/-- A writer that takes nothing more. -/
def writeZero : IoError := ⟨.other, "failed to write whole buffer"⟩

end IoError

/-- What an operation reports instead of a result. -/
inductive Error where
  | io (cause : IoError)
  | serial (text : String)
  | json
  | deviceNotFound (text : String)
  | commandFailed (command output : String)
  | timeout (text : String)
  | invalidImage (text : String)
  | parse (text : String)
  | unsupported (text : String)
  | config (text : String)
  /-- A wait that cannot expire outlived every attempt it was given. -/
  | unending
deriving DecidableEq, Repr

namespace Error

/-- The text without the name of the kind. -/
def detail : Error → String
  | .io cause => cause.text
  | .serial text | .deviceNotFound text | .timeout text | .invalidImage text
  | .parse text | .unsupported text | .config text => text
  | .json => "malformed document"
  | .commandFailed command output => s!"{command}\n{output}"
  | .unending => "wait without end"

/-- The name of the kind as messages begin. -/
def label : Error → String
  | .io _ => "I/O error"
  | .serial _ => "Serial port error"
  | .json => "JSON error"
  | .deviceNotFound _ => "Device not found"
  | .commandFailed _ _ => "Command failed"
  | .timeout _ => "Timeout"
  | .invalidImage _ => "Invalid UF2 image"
  | .parse _ => "Parse error"
  | .unsupported _ => "Unsupported"
  | .config _ => "Configuration error"
  | .unending => "Unending"

def message (e : Error) : String :=
  e.label ++ ": " ++ e.detail

/-- Whether a port or volume never showed up. -/
def isDeviceNotFound : Error → Bool
  | .deviceNotFound _ => true
  | _ => false

/-- Whether a bounded wait ran out. -/
def isTimeout : Error → Bool
  | .timeout _ => true
  | _ => false

/-- The messages of the causes behind an error, which repeat what its own
message says. -/
def causes : Error → List String
  | .io cause => [cause.text]
  | .serial text => [text]
  | .json => ["malformed document"]
  | _ => []

def exitCode : Error → Nat
  | .deviceNotFound _ => 4
  | .timeout _ => 5
  | .config _ => 3
  | _ => 1

end Error

/-- What an operation on a world of type `σ` does: it changes the world, and
yields a result or an error. What it did before an error stays done. -/
abbrev Action (σ α : Type) := ExceptT Error (StateM σ) α

/-- An action without effect that yields an outcome known already. -/
def Action.ofExcept {σ α : Type} : Except Error α → Action σ α
  | .ok a => pure a
  | .error e => throw e

/-- A change of the world that cannot fail. -/
def Action.change {σ : Type} (f : σ → σ) : Action σ Unit :=
  fun s => (.ok (), f s)

def Action.look {σ α : Type} (f : σ → α) : Action σ α :=
  fun s => (.ok (f s), s)

def Action.total {σ α : Type} (f : StateM σ α) : Action σ α :=
  fun s => let (a, s') := f s; (.ok a, s')

/-- The outcome of an action as a value, so that a failure does not end what
follows. -/
def Action.attempt {σ α : Type} (act : Action σ α) : Action σ (Except Error α) :=
  fun s => let (r, s') := act s; (.ok r, s')

/-- An action whose timeouts are reported as another error. -/
def Action.onTimeout {σ α : Type} (e : Error) (act : Action σ α) : Action σ α :=
  fun s => match act s with
    | (.error (.timeout _), s') => (.error e, s')
    | outcome => outcome

end BoardRig
