/-
What may stand on a command line.

A command line is made of options, which have a short or a long name, and of
operands, which are told apart by their place. An option is asked for help,
says something by being there, counts how often it is there, or takes a
value. Values pass a check where they are read, so that a fault is reported
in the order of the arguments. An option without a value can have it from a
variable of the environment, and then from a default.
-/
namespace BoardRig.CommandLine

/-- Why a command line is not carried out. -/
inductive Refusal where
  /-- Help was asked for, on the program or on one of its commands. -/
  | help (command : Option String)
  /-- The version was asked for. -/
  | version (command : Option String)
  /-- There was nothing on the command line. -/
  | nothingGiven
  | missingCommand
  | unknownCommand (argument : String)
  | unknownArgument (argument : String)
  | missingArguments (names : List String)
  /-- An option stands without the value it takes, or with an empty one that
  cannot be meant. -/
  | missingValue (option : String)
  | badValue (option value reason : String)
  /-- A value is attached to an option that takes none. -/
  | extraValue (option value : String)
  /-- An option is given twice. -/
  | repeated (option : String)
deriving DecidableEq, Repr

/-- The code the program leaves with: only what was asked for is a success. -/
def Refusal.exitCode : Refusal → Nat
  | .help _ | .version _ => 0
  | _ => 2

def Refusal.message : Refusal → String
  | .help _ => "help was asked for"
  | .version _ => "the version was asked for"
  | .nothingGiven => "a command is needed"
  | .missingCommand => "a command is needed behind the options"
  | .unknownCommand argument => s!"unrecognized command '{argument}'"
  | .unknownArgument argument => s!"unexpected argument '{argument}'"
  | .missingArguments names => "missing: " ++ String.intercalate ", " names
  | .missingValue option => s!"a value is required for '{option}'"
  | .badValue option value reason => s!"invalid value '{value}' for '{option}': {reason}"
  | .extraValue option value => s!"unexpected value '{value}' for '{option}'"
  | .repeated option => s!"'{option}' cannot be used twice"

/-- A check on a value: a reason when it is refused, which is empty when the
value counts as missing. -/
abbrev Check := String → Option String

/-- What an option means. -/
inductive Meaning where
  | help
  | version
  /-- Is there or is not. -/
  | switch
  /-- Counts how often it is there. -/
  | tally
  /-- Takes one value. -/
  | value (check : Check)

/-- An option or an operand; an operand has no names. -/
structure Parameter where
  id : String
  /-- What it is for. -/
  about : String := ""
  /-- What its value is called where the option is explained. -/
  valueName : String := ""
  short : Option Char := none
  long : Option String := none
  meaning : Meaning
  /-- The variable of the environment that may hold the value. -/
  inherited : Option String := none
  fallback : Option String := none
  required : Bool := false

namespace Parameter

def text (p : Parameter) : String :=
  match p.long, p.short with
  | some long, _ => "--" ++ long
  | none, some short => "-" ++ String.singleton short
  | none, none => "<" ++ p.valueName ++ ">"

end Parameter

/-- What may follow the name of a command, or the name of the program. -/
structure Grammar where
  /-- The name of the command, or none for the program itself. -/
  command : Option String := none
  options : List Parameter
  operands : List Parameter := []
  /-- The names of the commands, which end what belongs to the program. -/
  commands : List String := []

namespace Grammar

def short? (g : Grammar) (c : Char) : Option Parameter :=
  g.options.find? (·.short == some c)

def long? (g : Grammar) (name : String) : Option Parameter :=
  g.options.find? (·.long == some name)

end Grammar

/-- Where a value came from, in ascending order of weight. -/
inductive Source where
  | default
  | environment
  | commandLine
deriving DecidableEq, Repr

def Source.weight : Source → Nat
  | .default => 0
  | .environment => 1
  | .commandLine => 2

/-- What was found for a parameter: how often it is there, and its value. -/
structure Finding where
  id : String
  source : Source
  count : Nat := 1
  value : String := ""
deriving DecidableEq, Repr

abbrev Findings := List Finding

namespace Findings

def find? (fs : Findings) (id : String) : Option Finding :=
  List.find? (·.id == id) fs

def has (fs : Findings) (id : String) : Bool :=
  (fs.find? id).isSome

def count (fs : Findings) (id : String) : Nat :=
  ((fs.find? id).map (·.count)).getD 0

def value? (fs : Findings) (id : String) : Option String :=
  (fs.find? id).map (·.value)

/-- The findings with another one in place of that for the same parameter. -/
def put (fs : Findings) (f : Finding) : Findings :=
  fs.filter (·.id != f.id) ++ [f]

/-- The findings for a program and its command together: for a parameter of
both, the one of the command counts unless that of the program weighs more. -/
def merge (outer inner : Findings) : Findings :=
  outer.foldl (fun fs f =>
    match fs.find? f.id with
    | some g => if g.source.weight < f.source.weight then fs.put f else fs
    | none => fs ++ [f]) inner

end Findings

end BoardRig.CommandLine
