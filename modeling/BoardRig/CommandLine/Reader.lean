/-
Reading a command line by its grammar.

Arguments are taken one by one. A long option may have its value attached
behind an equals sign; short ones may stand together behind one dash, and the
rest behind one that takes a value is that value. Behind two dashes alone
everything is an operand. A value that stands on its own, and an operand, are
held back until the next argument shows that they are complete, and are
checked then.
-/
import BoardRig.CommandLine.Grammar
import BoardRig.Text.Blank

namespace BoardRig.CommandLine

/-- A parameter whose value was read, or still has to come. -/
structure Pending where
  parameter : Parameter
  value : Option String

/-- How far a command line was read. -/
structure Progress where
  findings : Findings := []
  pending : Option Pending := none
  /-- The operands that have no argument yet. -/
  operands : List Parameter := []
  /-- Whether two dashes alone came before. -/
  operandsOnly : Bool := false

namespace Progress

/-- Whether the next argument is the value of an option. -/
def awaitsValue (p : Progress) : Bool :=
  match p.pending with
  | some ⟨_, none⟩ => true
  | _ => false

/-- Note a value that was found. A parameter takes one value only. -/
def noteValue (p : Progress) (source : Source) (parameter : Parameter) (check : Check)
    (value : String) : Except Refusal Progress :=
  if p.findings.has parameter.id then .error (.repeated parameter.text)
  else
    match check value with
    | none => .ok { p with findings := p.findings.put { id := parameter.id, source, value } }
    | some "" => .error (.missingValue parameter.text)
    | some reason => .error (.badValue parameter.text value reason)

/-- Note what is held back, as nothing more belongs to it. -/
def settle (p : Progress) : Except Refusal Progress :=
  match p.pending with
  | none => .ok p
  | some ⟨parameter, value⟩ =>
    match parameter.meaning, value with
    | .value check, some value =>
      noteValue { p with pending := none } .commandLine parameter check value
    | _, _ => .error (.missingValue parameter.text)

/-- Note an option with the value that is attached to it. -/
def attached (p : Progress) (parameter : Parameter) (check : Check) (value : String) :
    Except Refusal Progress := do
  (← p.settle).noteValue .commandLine parameter check value

/-- Hold back a parameter whose value comes next, or has come. -/
def hold (p : Progress) (parameter : Parameter) (value : Option String) :
    Except Refusal Progress := do
  return { ← p.settle with pending := some ⟨parameter, value⟩ }

def tallyLimit : Nat := 255

/-- Note an option that has no value, in the grammar of a command. -/
def noteOption (command : Option String) (p : Progress) (parameter : Parameter) :
    Except Refusal Progress := do
  let p ← p.settle
  let id := parameter.id
  match parameter.meaning with
  | .help => .error (.help command)
  | .version => .error (.version command)
  | .switch =>
    if p.findings.has id then .error (.repeated parameter.text)
    else .ok { p with findings := p.findings.put { id, source := .commandLine } }
  | .tally =>
    let count := min (p.findings.count id + 1) tallyLimit
    .ok { p with findings := p.findings.put { id, source := .commandLine, count } }
  | .value _ => .ok p

end Progress

namespace Grammar

/-! ## Arguments

What waits is settled before an option is noted, so mistakes are reported in the
order in which they stand. -/

/-- Read a long option without its dashes. -/
def readLong (g : Grammar) (p : Progress) (argument : String) (body : List Char) :
    Except Refusal Progress :=
  let (name, value) := match Text.cutAt? '=' body with
    | some (name, value) => (name, some (String.ofList value))
    | none => (body, none)
  match g.long? (String.ofList name) with
  | none => .error (.unknownArgument argument)
  | some parameter =>
    match parameter.meaning, value with
    | .value check, some value => p.attached parameter check value
    | .value _, none => p.hold parameter none
    | _, some value => .error (.extraValue parameter.text value)
    | _, none => p.noteOption g.command parameter

/-- A value attached to a short option, where an equals sign may precede it. -/
def attachedValue : List Char → String
  | '=' :: value => String.ofList value
  | value => String.ofList value

/-- Read short options without their dash. -/
def readShort (g : Grammar) : List Char → Progress → Except Refusal Progress
  | [], p => .ok p
  | c :: rest, p =>
    match g.short? c with
    | none => .error (.unknownArgument ("-" ++ String.singleton c))
    | some parameter =>
      match parameter.meaning with
      | .value check =>
        if rest.isEmpty then p.hold parameter none
        else p.attached parameter check (attachedValue rest)
      | _ =>
        match p.noteOption g.command parameter with
        | .error e => .error e
        | .ok p => readShort g rest p

/-- Why an argument that is no option has no place. -/
def misplaced (g : Grammar) (p : Progress) (argument : String) : Refusal :=
  if g.commands.isEmpty || (p.operandsOnly && g.commands.contains argument) then
    .unknownArgument argument
  else .unknownCommand argument

/-- Read an argument that is no option: the value of the option before it, or
an operand. -/
def readPlain (g : Grammar) (p : Progress) (argument : String) : Except Refusal Progress :=
  match p.pending with
  | some ⟨parameter, none⟩ =>
    if p.operandsOnly then
      if p.operands.isEmpty then .error (g.misplaced p argument)
      else .error (.missingValue parameter.text)
    else .ok { p with pending := some ⟨parameter, some argument⟩ }
  | _ =>
    match p.operands with
    | [] => .error (g.misplaced p argument)
    | operand :: operands => do
      return { ← p.hold operand (some argument) with operands }

def readArgument (g : Grammar) (p : Progress) (argument : String) : Except Refusal Progress :=
  if p.operandsOnly then g.readPlain p argument
  else
    match argument.toList with
    | ['-', '-'] => .ok { p with operandsOnly := true }
    | '-' :: '-' :: body => g.readLong p argument body
    | ['-'] => g.readPlain p argument
    | '-' :: body => g.readShort body p
    | _ => g.readPlain p argument

/-- Read arguments up to the name of a command; yields that name and the
arguments behind it. -/
def readArguments (g : Grammar) : List String → Progress →
    Except Refusal (Progress × Option (String × List String))
  | [], p => .ok (p, none)
  | argument :: rest, p =>
    if !p.operandsOnly && !p.awaitsValue && g.commands.contains argument then
      .ok (p, some (argument, rest))
    else
      match g.readArgument p argument with
      | .error e => .error e
      | .ok p => readArguments g rest p

/-! ## What is not on the command line

A value from the environment, or a default, fills in for an option that was not
given, and is checked like any other. -/

/-- Note a value for every parameter that has none and is offered one. -/
def fill (source : Source) (offer : Parameter → Option String) : List Parameter → Progress →
    Except Refusal Progress
  | [], p => .ok p
  | parameter :: rest, p =>
    match parameter.meaning, offer parameter, p.findings.has parameter.id with
    | .value check, some value, false =>
      match p.noteValue source parameter check value with
      | .error e => .error e
      | .ok p => fill source offer rest p
    | _, _, _ => fill source offer rest p

/-- The findings once everything was read. -/
def finish (g : Grammar) (environment : String → Option String) (p : Progress) :
    Except Refusal Findings := do
  let p ← p.settle
  let p ← fill .environment (fun parameter => parameter.inherited.bind environment) g.options p
  let p ← fill .default (·.fallback) g.options p
  return p.findings

def missing (g : Grammar) (found : Findings) : List String :=
  ((g.options ++ g.operands).filter fun p => p.required && !found.has p.id).map (·.text)

/-- Read all arguments by a grammar without commands. -/
def readAll (g : Grammar) (environment : String → Option String) (arguments : List String) :
    Except Refusal Findings := do
  let (p, _) ← g.readArguments arguments { operands := g.operands }
  let found ← g.finish environment p
  if (g.missing found).isEmpty then .ok found else .error (.missingArguments (g.missing found))

end Grammar

end BoardRig.CommandLine
