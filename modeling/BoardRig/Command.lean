/-
External programs: what is asked of them and what they answer.

An invocation names a program and its arguments; it may have a directory to
run in and a time limit. A run that came to an end gives a result, also when
the program reports failure. A runner fails only when the program could not
be started or did not end in time.
-/
import BoardRig.Duration
import BoardRig.Error
import BoardRig.Text.Quoted

namespace BoardRig

/-- A request to run a program. -/
structure Invocation where
  program : String
  args : List String := []
  /-- The directory to run in, or the one of the caller. -/
  directory : Option String := none
  /-- The time after which the program is stopped. -/
  limit : Option Duration := none
deriving DecidableEq, Repr

namespace Invocation

/-- An argument as it is shown: quoted when it is empty or holds a blank. -/
def shownArg (arg : String) : String :=
  if arg.isEmpty || arg.toList.any Text.isBlank then Text.quoteString arg else arg

def text (i : Invocation) : String :=
  String.intercalate " " (i.program :: i.args.map shownArg)

def withArgs (i : Invocation) (args : List String) : Invocation :=
  { i with args := i.args ++ args }

end Invocation

/-- The outcome of a program that came to an end. -/
structure CommandResult where
  success : Bool
  stdout : String
  stderr : String
deriving DecidableEq, Repr

namespace CommandResult

def ok (stdout : String) : CommandResult := ⟨true, stdout, ""⟩

def failed (stderr : String) : CommandResult := ⟨false, "", stderr⟩

/-- The output followed by the diagnostics. -/
def combined (r : CommandResult) : String := r.stdout ++ r.stderr

/-- The result if it is a success, and otherwise an error that names the
command. -/
def checked (r : CommandResult) (command : String) : Except Error CommandResult :=
  if r.success then .ok r else .error (.commandFailed command r.combined)

end CommandResult

/-- A way to run programs in a world of type `σ`. -/
structure Runner (σ : Type) where
  run : Invocation → Action σ CommandResult

namespace Runner

def runChecked {σ : Type} (r : Runner σ) (i : Invocation) : Action σ CommandResult := do
  let result ← r.run i
  Action.ofExcept (result.checked i.text)

end Runner

end BoardRig
