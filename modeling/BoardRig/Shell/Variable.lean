/-
The variables and parameters of a shell.

A variable may be marked, so that other programs see it or that it keeps its
value. Parameters are the arguments of the script, and a few values that the
shell keeps by itself.
-/
import BoardRig.Shell.Arithmetic
import BoardRig.Shell.Control

namespace BoardRig.Shell

/-- Octets in quotes, so that a shell reads them as they are. -/
def quotedFrom : (fuel : Nat) → Octets → Octets
  | 0, cs => cs
  | fuel + 1, cs =>
    let plain := cs.takeWhile (· != '\'')
    let rest := cs.drop plain.length
    let quotes := rest.takeWhile (· == '\'')
    let behind := rest.drop quotes.length
    '\'' :: plain ++ ['\''] ++
      if quotes.isEmpty then []
      else '"' :: quotes ++ ['"'] ++ if behind.isEmpty then [] else quotedFrom fuel behind

def quoted (cs : Octets) : Octets := quotedFrom (cs.length + 1) cs

namespace State

/-! ## Parameters -/

def separators (p : State) : Octets :=
  (p.value? "IFS").getD [' ', '\t', '\n']

/-- The octet that joins the arguments of a script, if there is one. -/
def joiner (p : State) : Octets :=
  match p.value? "IFS" with
  | some cs => cs.take 1
  | none => [' ']

/-- The letters of the options in the order in which they are shown. -/
def optionOrder : List Char :=
  ['p', 'u', 'b', 'a', 'C', 'E', 'V', 'v', 'x', 's', 'n', 'm', 'i', 'I', 'f', 'e']

def parameter? (p : State) (name : String) : Option Octets :=
  match name.toList with
  | ['@'] | ['*'] =>
    if p.arguments.isEmpty then none else some (List.intercalate p.joiner p.arguments)
  | ['#'] => some (Octets.ofNat p.arguments.length)
  | ['?'] => some (Octets.ofNat p.status)
  | ['$'] => some (Octets.ofNat p.script)
  | ['!'] => p.lastJob.map Octets.ofNat
  | ['-'] => some (optionOrder.filter p.options.contains)
  | c :: rest =>
    if c.isDigit then
      let n := (Octets.leadingNat (c :: rest)).1
      if n = 0 then some (Octets.ofString p.name) else p.arguments[n - 1]?
    else if name = "LINENO" && (p.bindings.lookup name).isNone then
      some (Octets.ofNat (p.line + 1 - max p.functionLine 1))
    else p.value? name
  | [] => none

/-! ## Assignment -/

def setVariable (name : String) (value : Octets) : Run Unit := do
  let p ← get
  match p.bindings.lookup name with
  | some b =>
    if b.readonly then fail (name ++ ": is read only")
    else set (p.bind name { b with value := some value, exported := b.exported || p.options.contains 'a' })
  | none => set (p.bind name { value := some value, exported := p.options.contains 'a' })
  if name = "OPTIND" then
    let n := (Octets.nat? value).getD 1
    modify fun p => { p with optionPlace := max n 1, optionOffset := 0 }

def unsetVariable (name : String) : Run Unit := do
  let p ← get
  match p.bindings.lookup name with
  | some b => if b.readonly then fail (name ++ ": is read only") else set (p.unbind name)
  | none => pure ()

/-- Remember what a variable was before the function or the command at hand. -/
def remember (name : String) : Run Unit := modify fun p =>
  match p.locals with
  | [] => p
  | frame :: frames =>
    if frame.any (·.1 == name) then p
    else { p with locals := ((name, p.bindings.lookup name) :: frame) :: frames }

/-- Run with a frame of variables that are what they were afterwards. -/
def framed {α : Type} (act : Run α) : Run α := fun p =>
  let (r, q) := act { p with locals := [] :: p.locals }
  let bindings := (q.locals.head?.getD []).foldl (fun bindings (name, old) =>
    match old with
    | some b =>
      if bindings.any (·.1 == name) then
        bindings.map fun v => if v.1 = name then (name, b) else v
      else bindings ++ [(name, b)]
    | none => bindings.filter (·.1 != name)) q.bindings
  (r, { q with locals := p.locals, bindings })

def mark (name : String) (change : Binding → Binding) : Run Unit := modify fun p =>
  p.bind name (change ((p.bindings.lookup name).getD {}))

/-- The part of an argument that is a name, and the value behind an equals
sign. -/
def nameAndValue (arg : Octets) : Octets × Option Octets :=
  match Text.cutAt? '=' arg with
  | some (name, value) => (name, some value)
  | none => (arg, none)

/-- A name of a variable; complains about anything else. -/
def nameIn (cs : Octets) : Run String :=
  if isName cs then pure (String.ofList cs) else failAbout cs ": bad variable name"

def declaration (command : String) (name : String) (b : Binding) : Octets :=
  let front := if command.isEmpty then [] else Octets.ofString command ++ [' ']
  front ++ Octets.ofString name ++ b.value.elim [] (fun value => '=' :: quoted value) ++ ['\n']

/-- Write the declarations of the variables of a kind, in order. -/
def listVariables (command : String) (wanted : Binding → Bool) : Run Unit := do
  let p ← get
  let chosen := p.bindings.filter fun v => wanted v.2
  let ordered := chosen.mergeSort fun a b => !(decide (b.1 < a.1))
  put (ordered.flatMap fun (name, b) => declaration command name b)

/-- Mark variables, and give them values. -/
def declare (command : String) (wanted : Binding → Bool) (change : Binding → Binding)
    (args : List Octets) : Run Nat := do
  let (found, args) ← splitOptions "p" args
  if !found.isEmpty || args.isEmpty then
    listVariables command wanted
    return 0
  else
    for arg in args do
      let (name, value) := nameAndValue arg
      let name ← nameIn name
      if let some value := value then setVariable name value
      mark name change
    return 0

/-- Declare variables that belong to the function at hand. -/
def declareLocal (args : List Octets) : Run Nat := do
  if (← get).functionLine = 0 then fail "not in a function"
  for arg in args do
    let (name, value) := nameAndValue arg
    if name = ['-'] then pure ()
    else
      let name ← nameIn name
      remember name
      if let some value := value then setVariable name value
      else if ((← get).bindings.lookup name).isNone then mark name fun b => b
  return 0

def unset (args : List Octets) : Run Nat := do
  let (found, args) ← splitOptions "vf" args
  let isFunction := (found.getLast?.map (·.1)) == some 'f'
  for arg in args do
    if isFunction then
      modify fun p => { p with
        functions := p.functions.filter (·.1 != String.ofList arg) }
    else unsetVariable (← nameIn arg)
  return 0

/-! ## Options and arguments -/

/-- The options of a shell by name, with the letters that some of them have. -/
def optionNames : List (String × Option Char) := [
  ("errexit", some 'e'), ("noglob", some 'f'), ("ignoreeof", some 'I'),
  ("interactive", some 'i'), ("monitor", some 'm'), ("noexec", some 'n'), ("stdin", some 's'),
  ("xtrace", some 'x'), ("verbose", some 'v'), ("vi", some 'V'), ("emacs", some 'E'),
  ("noclobber", some 'C'), ("allexport", some 'a'), ("notify", some 'b'),
  ("nounset", some 'u'), ("privileged", some 'p'), ("nolog", none), ("debug", none)]

def withOption (value : Bool) (letter : Char) (p : State) : State :=
  let others := p.options.filter (· != letter)
  { p with options := if value then letter :: others else others }

def setLetter (value : Bool) (letter : Char) : Run Unit := do
  if optionOrder.contains letter then modify (withOption value letter)
  else fail ("Illegal option -" ++ String.singleton letter)

/-- Set an option by its name, or write all of them. -/
def setNamed (value : Bool) : Option Octets → Run Unit
  | some name =>
    match optionNames.lookup (Octets.text name) with
    | some (some letter) => modify (withOption value letter)
    | some none => pure ()
    | none => failWith ("Illegal option -o ".toList ++ name)
  | none => do
    let p ← get
    let isSet (letter : Option Char) : Bool := (letter.map p.options.contains).getD false
    if value then
      putLine "Current option settings".toList
      put (optionNames.flatMap fun (name, letter) =>
        Octets.padRight 16 ' ' name.toList ++ (if isSet letter then "on\n" else "off\n").toList)
    else
      put (optionNames.flatMap fun (name, letter) =>
        (if isSet letter then "set -o " else "set +o ").toList ++ name.toList ++ ['\n'])

/-- Set the options in front of arguments; yields the arguments behind them,
and whether they replace those of the script. -/
def setOptions : (fuel : Nat) → List Octets → Run (List Octets × Bool)
  | 0, args => pure (args, false)
  | _ + 1, [] => pure ([], false)
  | _ + 1, ['-'] :: rest => do
    modify fun p => withOption false 'x' (withOption false 'v' p)
    return (rest, !rest.isEmpty)
  | _ + 1, ['-', '-'] :: rest => pure (rest, true)
  | fuel + 1, (sign :: letters) :: rest => do
    if sign = '-' || sign = '+' then
      let value := sign = '-'
      let rest ← letters.foldlM (fun rest c => do
        if c = 'o' then
          setNamed value rest.head?
          return rest.drop 1
        else
          setLetter value c
          return rest) rest
      setOptions fuel rest
    else return ((sign :: letters) :: rest, true)
  | _ + 1, args => pure (args, true)

def setAll (args : List Octets) : Run Nat := do
  if args.isEmpty then listVariables "" (·.value.isSome)
  else
    let (args, replaces) ← setOptions (args.length + 1) args
    if replaces then
      modify fun p => { p with arguments := args, optionPlace := 1, optionOffset := 0 }
  return 0

/-- Leave out some arguments of the script. -/
def shift (args : List Octets) : Run Nat := do
  let n ← numberOr 1 args
  let p ← get
  if p.arguments.length < n then fail "can't shift that many"
  set { p with arguments := p.arguments.drop n, optionPlace := 1, optionOffset := 0 }
  return 0

/-- The number that an expression has; it may give variables new values. -/
def calculated (cs : Octets) : Run Int := do
  let p ← get
  match Arithmetic.evaluate p.parameter? cs with
  | .ok (n, assigned) =>
    for (name, value) in assigned do setVariable name value
    return n
  | .error (.expression text) =>
    failWith (Octets.ofString ("arithmetic expression: " ++ text ++ ": \"") ++ cs ++ ['"'])
  | .error (.number text) => failWith ("Illegal number: ".toList ++ text)
  | .error .tooDeep => throw .exhausted

end State

end BoardRig.Shell
