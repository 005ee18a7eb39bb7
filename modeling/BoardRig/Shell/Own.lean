/-
What the shell does itself.

These commands change the state that the script goes on with, so that no
program of its own could do their work, or they are so simple that no program
is needed. None of them runs another command; those that do are part of the
interpreter.
-/
import BoardRig.Shell.Condition
import BoardRig.Shell.Directory
import BoardRig.Shell.LineReading
import BoardRig.Shell.Lookup
import BoardRig.Shell.Process
import BoardRig.Shell.Token

namespace BoardRig.Shell.State

/-! ## Output -/

/-- Write arguments with their escapes, up to one that ends all output. -/
def echoFrom (newline : Bool) (before : Octets) : List Octets → Run Nat
  | [] => do put (before ++ if newline then ['\n'] else []); return 0
  | arg :: rest => do
    let (cs, ended) := Escape.expanded Escape.escapedLonger arg
    if ended then do put (before ++ cs); return 0
    else echoFrom newline (before ++ cs ++ if rest.isEmpty then [] else [' ']) rest

def echo : List Octets → Run Nat
  | ['-', 'n'] :: rest => echoFrom false [] rest
  | args => echoFrom true [] args

def writeFormat (args : List Octets) : Run Nat := do
  match ← withoutOptions args with
  | [] => fail "usage: printf format [arg ...]"
  | format :: args =>
    let r := Printf.run format args
    for complaint in r.complaints.reverse do protestWith complaint
    if let some mistake := r.mistake then
      protestWith mistake
      put r.written.reverse
      throw (.failed 2)
    put r.written.reverse
    return if r.complaints.isEmpty then 0 else 1

def testCondition (args : List Octets) : Run Nat := do
  match Condition.holds (← get) args with
  | .ok holds => return if holds then 0 else 1
  | .error fault => failWith fault.text

def testInBrackets (args : List Octets) : Run Nat := do
  if args.getLast? == some [']'] then testCondition args.dropLast else fail "missing ]"

/-! ## Aliases -/

/-- Give names to commands, or write the names that there are. -/
def setAliases (args : List Octets) : Run Nat := do
  let shown (name : Octets) (value : Octets) : Octets := name ++ '=' :: quoted value
  match args with
  | [] =>
    let p ← get
    put (p.aliases.flatMap fun (name, value) => shown name.toList value ++ ['\n'])
    return 0
  | args =>
    args.foldlM (fun status arg => do
      match Text.cutAt? '=' (arg.drop 1) with
      | some (name, value) =>
        let name := String.ofList (arg.take 1 ++ name)
        modify fun p => { p with aliases := p.aliases.filter (·.1 != name) ++ [(name, value)] }
        return status
      | none =>
        match (← get).aliases.lookup (String.ofList arg) with
        | some value =>
          putLine (shown arg value)
          return status
        | none =>
          complainWith ("alias: ".toList ++ arg ++ " not found".toList)
          return 1) 0

/-- Take names away from commands. -/
def removeAliases (args : List Octets) : Run Nat := do
  let (found, args) ← splitOptions "a" args
  if !found.isEmpty then
    modify fun p => { p with aliases := [] }
    return 0
  else
    args.foldlM (fun status arg => do
      let p ← get
      let name := String.ofList arg
      if (p.aliases.lookup name).isSome then
        set { p with aliases := p.aliases.filter (·.1 != name) }
        return status
      else
        complainWith ("unalias: ".toList ++ arg ++ " not found".toList)
        return 1) 0

/-! ## What names mean -/

/-- The commands of the shell that belong to the language. -/
def specialNames : List String := [
  ".", ":", "break", "continue", "eval", "exec", "exit", "export", "local", "readonly", "return",
  "set", "shift", "times", "trap", "unset"]

/-- The other commands that the shell has within itself. -/
def regularNames : List String := [
  "[", "alias", "bg", "cd", "chdir", "command", "echo", "false", "fg", "getopts", "hash", "jobs",
  "kill", "printf", "pwd", "read", "test", "true", "type", "ulimit", "umask", "unalias", "wait"]

/-- Whether the shell has a command within itself. -/
def isOwn (name : String) : Bool := specialNames.contains name || regularNames.contains name

def track (name : Octets) (directories : List Octets) : Run (Except IoError Octets) := do
  let p ← get
  match p.findProgram directories name with
  | .error e => return .error e
  | .ok path =>
    if !name.contains '/' then
      let key := String.ofList name
      if (p.tracked.lookup key).isNone then
        set { p with tracked := p.tracked ++ [(key, path)] }
    return .ok path

/-- Say what a name means, in words or so that a script can use it. -/
def describe (inWords : Bool) (directories : List Octets) (name : Octets) : Run Nat := do
  let p ← get
  let text := String.ofList name
  let said (words short : Octets) : Run Nat := do
    putLine (if inWords then name ++ words else short)
    return 0
  if (Keyword.all.lookup text).isSome then said " is a shell keyword".toList name
  else
    match p.aliases.lookup text with
    | some value =>
      said (" is an alias for ".toList ++ value) ("alias ".toList ++ name ++ '=' :: quoted value)
    | none =>
      if (p.functions.lookup text).isSome then said " is a shell function".toList name
      else if specialNames.contains text then said " is a special shell builtin".toList name
      else if regularNames.contains text then said " is a shell builtin".toList name
      else
        let known := (p.tracked.lookup text).isSome
        match ← track name directories with
        | .ok path =>
          said ((if known then " is a tracked alias for " else " is ").toList ++ path) path
        | .error _ =>
          if inWords then putLine (name ++ ": not found".toList)
          return 127

def describeAll (args : List Octets) : Run Nat := do
  let directories := (← get).searchPath
  args.foldlM (fun status name => do
    let s ← describe true directories name
    return max status s) 0

/-- Say what one name means, as options ask for it. -/
def describeOne (args : List Octets) : Run Nat := do
  let (found, args) ← splitOptions "pvV" args
  let p ← get
  let directories := if found.any (·.1 == 'p') then Text.split ':' usualSearchPath
    else p.searchPath
  match args with
  | name :: _ => describe (found.any (·.1 == 'V')) directories name
  | [] => return 0

/-- Keep in mind where programs are, or list those that are. -/
def hashPrograms (args : List Octets) : Run Nat := do
  let (found, args) ← splitOptions "rv" args
  if found.any (·.1 == 'r') then
    modify fun p => { p with tracked := [] }
    return 0
  else if args.isEmpty then
    put ((← get).tracked.flatMap fun (_, path) => path ++ ['\n'])
    return 0
  else
    args.foldlM (fun status name => do
      if isOwn (String.ofList name) then return status
      match ← track name (← get).searchPath with
      | .ok _ => return status
      | .error e =>
        protestWith (name ++ ": ".toList ++ Octets.ofString (programMeaning e))
        return 1) 0

/-! ## The commands -/

/-- End as many loops as an argument says, of those that there are. -/
def leaveLoops (stop : Nat → Stop) (args : List Octets) : Run Nat := do
  let n ← numberOr 1 args
  if n = 0 then failWith ("Illegal number: ".toList ++ args.head?.getD [])
  let n := min n (← get).loops
  if 0 < n then throw (stop n)
  return 0

/-- The commands of the shell that need no other command. -/
def own? (name : String) (args : List Octets) : Option (Run Nat) :=
  match name with
  | ":" | "true" => some (pure 0)
  | "false" => some (pure 1)
  | "exit" => some do throw (.exit ((← numberOr (← get).status args) % 256))
  | "return" => some do throw (.return (← numberOr (← get).status args))
  | "break" => some (leaveLoops .break args)
  | "continue" => some (leaveLoops .continue args)
  | "echo" => some (echo args)
  | "printf" => some (writeFormat args)
  | "test" => some (testCondition args)
  | "[" => some (testInBrackets args)
  | "cd" | "chdir" => some (changeDirectory args)
  | "pwd" => some (tellDirectory args)
  | "umask" => some (changeMask args)
  | "export" => some (declare "export" (·.exported) (fun b => { b with exported := true }) args)
  | "readonly" =>
    some (declare "readonly" (·.readonly) (fun b => { b with readonly := true }) args)
  | "local" => some (declareLocal args)
  | "unset" => some (unset args)
  | "shift" => some (shift args)
  | "set" => some (setAll args)
  | "read" => some (readInto args)
  | "getopts" => some (getOptions args)
  | "kill" => some (kill args)
  | "trap" => some (setTraps args)
  | "wait" => some (wait args)
  | "jobs" => some (listJobs args)
  | "fg" | "bg" => some (fail "No current job")
  | "alias" => some (setAliases args)
  | "unalias" => some (removeAliases args)
  | "type" => some (describeAll args)
  | "hash" => some (hashPrograms args)
  | "times" => some do
    put "0m0.000000s 0m0.000000s\n0m0.000000s 0m0.000000s\n".toList
    return 0
  | "ulimit" => some do
    let _ ← splitOptions "HSatfdscmlpnv" args
    putLine "unlimited".toList
    return 0
  | _ => none

/-- Run a command of the shell in its own name; what could not be written is
complained about. -/
def asOwn (name : Octets) (act : Run Nat) : Run Nat := do
  modify fun p => { p with unwritten := none }
  speaking name do
    let status ← act
    if (← get).unwritten.isSome then
      modify fun p => { p with unwritten := none }
      protestWith (name ++ ": I/O error".toList)
      return status ||| 1
    else return status

end BoardRig.Shell.State
