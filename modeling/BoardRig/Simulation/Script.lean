/-
A runner that answers from a script.

The first rule whose pattern stands in the command decides; without one the
next answer of a queue does, and when the queue is empty every command
succeeds. The runner keeps what it was asked, and the bytes of the file that
the last argument named at that time.
-/
import BoardRig.Command
import BoardRig.FileSystem.Access

namespace BoardRig.Simulation

abbrev Answer := Except Error CommandResult

/-- What a runner was asked. -/
structure Asked where
  invocation : Invocation
  /-- The bytes of the file named by the last argument. -/
  file : Option Bytes
deriving DecidableEq, Repr

/-- The answers that are ready, and what was asked so far. -/
structure Script where
  rules : List (String × Answer) := []
  queue : List Answer := []
  asked : List Asked := []

namespace Script

/-- A rule's answer each time it is given: a timeout stays one, and every
other error becomes a failure with its message. -/
def repeated : Answer → Answer
  | .ok result => .ok result
  | .error (.timeout text) => .error (.timeout text)
  | .error e => .error (.io ⟨.other, e.message⟩)

/-- The answer to a command, and the script after it. -/
def answer (script : Script) (command : String) : Answer × Script :=
  match script.rules.find? fun (pattern, _) => Text.occursIn pattern.toList command.toList with
  | some (_, a) => (repeated a, script)
  | none =>
    match script.queue with
    | a :: rest => (a, { script with queue := rest })
    | [] => (.ok (.ok ""), script)

/-- The bytes of the file that the last argument names. -/
def namedFile (files : FileSystem) (i : Invocation) : Option Bytes :=
  match i.args.getLast? with
  | some path => (files.read path).toOption
  | none => none

def run (script : Script) (files : FileSystem) (i : Invocation) : Answer × Script :=
  let asked := script.asked ++ [⟨i, namedFile files i⟩]
  let (a, script) := script.answer i.text
  (a, { script with asked })

/-- The runner of a world that holds a script and files. -/
def runner {σ : Type} (get : σ → Script) (set : Script → σ → σ) (files : σ → FileSystem) :
    Runner σ where
  run i := fun s =>
    let (a, script) := (get s).run (files s) i
    (a, set script s)

end Script

end BoardRig.Simulation
