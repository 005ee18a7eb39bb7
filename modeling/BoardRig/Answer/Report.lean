/-
What a command says when it succeeds.

Results go to the output, so that other programs can read them; notes for
people go beside it. A record of results is a JSON object on several lines.
-/
import BoardRig.Failure
import BoardRig.Json.Printer

namespace BoardRig

/-- The texts that a command leaves. -/
structure Report where
  output : String := ""
  notes : String := ""
deriving DecidableEq, Repr

namespace Report

def linesText (lines : List String) : String :=
  String.join (lines.map (· ++ "\n"))

def result (line : String) : Report := { output := line ++ "\n" }

/-- A report with a note, unless there are to be none. -/
def note (quiet : Bool) (line : String) : Report :=
  if quiet then {} else { notes := "✓ " ++ line ++ "\n" }

def sheet (title : String) (lines : List String) : Report :=
  { notes := linesText (title :: lines.map ("  " ++ ·)) }

def ofJson (data : Json) : Report :=
  result (Json.record [("ok", .bool true), ("data", data)]).pretty

/-- A report with the texts of another one behind its own. -/
def append (a b : Report) : Report :=
  ⟨a.output ++ b.output, a.notes ++ b.notes⟩

def closedLine (text : String) : String :=
  if text.toList.getLast? = some '\n' then text else text ++ "\n"

end Report

/-- What a command does in a world of type `σ`. -/
abbrev Answer (σ : Type) := StateM σ (Except Failure Report)

/-- An answer from an action and what its result is reported as, with a
remark on its error. -/
def Answer.ofAction {σ α : Type} (remark : String) (act : Action σ α) (report : α → Report) :
    Answer σ := fun s =>
  match act s with
  | (.ok a, s) => (.ok (report a), s)
  | (.error e, s) => (.error ⟨.operation e, [remark]⟩, s)

/-- The answer of a command that is misused or cannot go on. -/
def Answer.refusal {σ : Type} (cause : Cause) : Answer σ := fun s =>
  (.error ⟨cause, []⟩, s)

/-- The answer that depends on a value which may be refused. -/
def Answer.given {σ α : Type} (value : Except Cause α) (next : α → Answer σ) : Answer σ :=
  match value with
  | .ok a => next a
  | .error cause => Answer.refusal cause

end BoardRig
