/-
Programs that run other programs: with another environment, within a time
limit, or with arguments that are read.
-/
import BoardRig.Decimal.Ratio
import BoardRig.Shell.Lookup
import BoardRig.Toolbox.Options

namespace BoardRig.Toolbox.Launching

open Shell State

/-- The status when a program is not found, or cannot be run. -/
def statusFor (e : IoError) : Nat := if isAbsence e then 127 else 126

/-- Go on as another program, or complain that it cannot be run. -/
def become (launch : Launcher) (what : Octets → Octets) (argv : List Octets) : Run Nat := do
  let before ← get
  match ← launch argv with
  | .ok status => return status
  | .error e =>
    modify fun p => { p with name := before.name }
    faultAt (what (argv.head?.getD [])) e
    throw (.exit (statusFor e))

/-- How a program is named that could not be run. -/
def failedToRun (cs : Octets) : Octets := "failed to run command ".toList ++ Quote.always cs

/-! ## The environment -/

def wordsOf (cs : Octets) : List Octets := Text.wordsFrom isSpace [] cs

/-- Run a program with another environment, or write the environment. -/
def env (launch : Launcher) (args : List Octets) : Run Nat := do
  -- Words that are given as one argument are taken apart.
  let args := match args with
    | ('-' :: 'S' :: text) :: rest =>
      if text.isEmpty then (wordsOf (rest.head?.getD [])) ++ rest.tail else wordsOf text ++ rest
    | args => args
  let g ← givenWith [.plain 'i' "ignore-environment", .valued 'u' "unset", .plain '0' "null",
    .valued 'C' "chdir", .plain 'v' "debug"] false 125 args
  let operands := g.operands
  let alone := operands.head? == some ['-']
  let operands := if alone then operands.tail else operands
  if g.has "ignore-environment" || alone then modify (withEnvironment [])
  for name in g.all "unset" do modify (unbind (String.ofList name))
  let assignments := operands.takeWhile fun arg => arg.contains '='
  for arg in assignments do
    if let some (name, value) := Text.cutAt? '=' arg then
      modify fun p => p.bind (String.ofList name) { value := some value, exported := true }
  if let some directory := g.last? "chdir" then
    let p ← get
    if p.files.isDirectory (p.pathOf directory) then
      set { p with directory := p.pathOf directory }
    else
      faultAt ("cannot change directory to ".toList ++ Quote.always directory) .noSuchFile
      throw (.exit 125)
  match operands.drop assignments.length with
  | [] =>
    let ending := if g.has "null" then '\x00' else '\n'
    for (name, value) in (← get).environment do put (name.toList ++ '=' :: value ++ [ending])
    return 0
  | argv => become launch Quote.always argv

/-- Write variables of the environment. -/
def printenv (_ : Launcher) (args : List Octets) : Run Nat := do
  let g ← givenWith [.plain '0' "null"] false 2 args
  let ending := if g.has "null" then '\x00' else '\n'
  let all := (← get).environment
  if g.operands.isEmpty then
    for (name, value) in all do put (name.toList ++ '=' :: value ++ [ending])
    return 0
  else
    forEach g.operands fun name => do
      match all.lookup (String.ofList name) with
      | some value =>
        put (value ++ [ending])
        return 0
      | none => return 1

/-! ## Time -/

/-- The span that a text denotes: seconds, or what a letter behind them says;
nothing if it never ends. -/
def span? (cs : Octets) : Option (Option Duration) := do
  let (whole, fraction, rest) := Decimal.Number.pointed 10 cs
  if cs = "inf".toList || cs = "infinity".toList then return none
  if whole.isEmpty && fraction.isEmpty then none
  else
    let (power, rest) := Decimal.Number.powerBehind 'e' rest
    let unit ← match rest with
      | [] | ['s'] => some 1
      | ['m'] => some 60
      | ['h'] => some 3600
      | ['d'] => some 86400
      | _ => none
    if 100 < power.natAbs then none
    else
      let digits := Decimal.Binary64.ofDigits (whole ++ fraction)
      let shift := power - (fraction.length : Int)
      let n := digits * unit * Duration.perSecond * Nat.pow 10 shift.toNat
      return some ((n + Nat.pow 10 (-shift).toNat - 1) / Nat.pow 10 (-shift).toNat)

def sleep (_ : Launcher) (args : List Octets) : Run Nat := do
  let g ← given [] args
  if g.operands.isEmpty then missingOperand 1
  let spans := g.operands.map fun arg => (arg, span? arg)
  let wrong := spans.filter fun s => s.2.isNone
  for (arg, _) in wrong do faultWith ("invalid time interval ".toList ++ Quote.text arg)
  if !wrong.isEmpty then
    complainWith ("Try '".toList ++ Octets.ofString (← get).name ++
      " --help' for more information.".toList)
    return 1
  if spans.any fun s => s.2 == some none then waitForEver
  spend (spans.foldl (fun n s => n + ((s.2.getD none).getD 0)) 0)
  return 0

/-- Run within a time limit: how it ended, and whether the limit was
reached. -/
def within (limit : Option Duration) (act : Run Nat) : Run (Ending × Bool) := fun p =>
  let own := limit.map (p.time + ·)
  let first := match own, p.deadline with
    | some a, some b => some (min a b)
    | a, b => a.or b
  let (r, q) := child act { p with deadline := first }
  let q : State := { q with deadline := p.deadline }
  match r with
  | .ok ending => (.ok (ending, false), q)
  | .error .late =>
    if own.any fun a => p.deadline.all (a < ·) then (.ok (.killed 15, true), q)
    else (.error .late, q)
  | .error stop => (.error stop, q)

/-- Run a program, and stop it when a time is over. -/
def timeout (launch : Launcher) (args : List Octets) : Run Nat := do
  let g ← givenWith [.valued 's' "signal", .valued 'k' "kill-after", .plain 'v' "verbose",
    .long "preserve-status" .nothing, .long "foreground" .nothing] false 125 args
  match g.operands with
  | [] => missingOperand 125
  | [_] => missingOperand 125
  | text :: argv =>
    match span? text with
    | none => misused 125 ("invalid time interval ".toList ++ Quote.text text)
    | some limit =>
      let signal ← match g.last? "signal" with
        | none => pure 15
        | some name =>
          match Signal.number? true name with
          | some n => pure n
          | none => misused 125 (Quote.text name ++ ": invalid signal".toList)
      let limit := limit.filter (· != 0)
      let (ending, overdue) ← within limit (become launch failedToRun argv)
      if overdue then
        if g.has "verbose" then
          faultWith ("sending signal ".toList ++ (Signal.name signal).toList ++ " to command ".toList ++
            Quote.always (argv.head?.getD []))
        if g.has "preserve-status" then return 128 + signal
        else if signal = 9 then return 137
        else return 124
      else
        match ending with
        | .exited status => return status
        | .killed signal => return 128 + signal

def plainly (flags : List Flag) (launch : Launcher) (args : List Octets) : Run Nat := do
  let g ← givenWith flags false 125 args
  if g.operands.isEmpty then missingOperand 125
  become launch failedToRun g.operands

/-- Run a program that is not ended with the terminal. -/
def nohup : Tool := plainly []

def nice (launch : Launcher) (args : List Octets) : Run Nat :=
  if args.isEmpty then do putLine ['0']; return 0
  else plainly [.valued 'n' "adjustment"] launch args

/-- Run a program with other buffers. -/
def stdbuf : Tool := plainly [.valued 'i' "input", .valued 'o' "output", .valued 'e' "error"]

/-- Run a program in a session of its own. -/
def setsid : Tool := plainly [.plain 'w' "wait", .plain 'f' "fork", .plain 'c' "ctty"]

/-! ## Arguments that are read -/

/-- The words of a text, where quotes and backslashes keep characters
together, with the number of the line in which each ends; nothing if a quote
is not closed. -/
def quotedWords : (fuel : Nat) → (line : Nat) → (word : Option Octets) → Octets →
    Except Char (List (Octets × Nat))
  | 0, _, _, _ => .ok []
  | _ + 1, line, word, [] => .ok ((word.map fun w => (w.reverse, line)).toList)
  | fuel + 1, line, word, c :: rest =>
    if isSpace c && c != '\x0b' && c != '\x0c' && c != '\r' then do
      let more ← quotedWords fuel (if c = '\n' then line + 1 else line) none rest
      return (word.map fun w => (w.reverse, line)).toList ++ more
    else if c = '"' || c = '\'' then
      let inner := rest.takeWhile fun d => d != c && d != '\n'
      match rest.drop inner.length with
      | d :: rest =>
        if d = '\n' then .error c
        else quotedWords fuel line (some (inner.reverse ++ word.getD [])) rest
      | [] => .error c
    else if c = '\\' then
      match rest with
      | d :: rest => quotedWords fuel line (some (d :: word.getD [])) rest
      | [] => quotedWords fuel line word []
    else quotedWords fuel line (some (c :: word.getD [])) rest

/-- A text with another one in place of each occurrence of a part. -/
def replaced (part other : Octets) : (fuel : Nat) → Octets → Octets
  | 0, cs => cs
  | _ + 1, [] => []
  | fuel + 1, c :: rest =>
    match Text.stripStart? part (c :: rest) with
    | some behind =>
      if part.isEmpty then c :: rest else other ++ replaced part other fuel behind
    | none => c :: replaced part other fuel rest

/-- Items in groups of at most so many items, lines and octets. -/
def groupsOf (count lines : Option Nat) (size : Nat) :
    (here : List (Octets × Nat)) → List (Octets × Nat) → List (List Octets)
  | here, [] => if here.isEmpty then [] else [here.reverse.map (·.1)]
  | here, item :: rest =>
    let taken := here.foldl (fun n i => n + i.1.length + 1) 0
    let numbers := (here.map (·.2)).eraseDups
    let full := !here.isEmpty &&
      (count.any (here.length ≥ ·) ||
        lines.any (fun n => n ≤ numbers.length && !numbers.contains item.2) ||
        size < taken + item.1.length + 1)
    if full then here.reverse.map (·.1) :: groupsOf count lines size [item] rest
    else groupsOf count lines size (item :: here) rest

/-- Run a program with arguments that are read from the input. -/
def xargs (launch : Launcher) (args : List Octets) : Run Nat := do
  let g ← givenWith [.plain '0' "null", .valued 'a' "arg-file", .valued 'd' "delimiter",
    .valued 'E' "E", ⟨some 'e', "eof", .attached⟩, .valued 'I' "I",
    ⟨some 'i', "replace", .attached⟩, .valued 'L' "L", .valued 'n' "max-args",
    .valued 'P' "max-procs", .plain 'p' "interactive", .plain 'r' "no-run-if-empty",
    .valued 's' "max-chars", .plain 't' "verbose", .plain 'x' "exit",
    .plain 'o' "open-tty"] false 1 args
  let cs ← match g.last? "arg-file" with
    | some file =>
      match ← contentOf file with
      | .ok cs => pure cs
      | .error e => do
        faultAt ("Cannot open input file ".toList ++ Quote.always file) e
        throw (.exit 1)
    | none =>
      match ← readAll 0 with
      | .ok cs => pure cs
      | .error _ => pure []
  let number (word : String) : Run (Option Nat) := do
    match g.last? word with
    | none => return none
    | some text =>
      match Octets.nat? text with
      | some n => return some n
      | none =>
        faultWith ("invalid number \"".toList ++ text ++ "\" for -".toList ++
          (if word == "max-args" then ['n'] else if word == "max-procs" then ['P'] else ['L']) ++
          " option".toList)
        complain "Try 'xargs --help' for more information."
        throw (.exit 1)
  let count ← number "max-args"
  let lines ← number "L"
  let _ ← number "max-procs"
  let size := ((← number "max-chars")).getD 131072
  let mark := (g.last? "I").or ((g.last? "replace").map fun m =>
    if m.isEmpty then "\x7b\x7d".toList else m)
  let separator := if g.has "null" then some '\x00'
    else (g.last? "delimiter").map fun text =>
      match text with
      | '\\' :: rest => (Escape.escaped rest).1
      | text => text.head?.getD ' '
  let items : List (Octets × Nat) ← match separator, mark with
    | some c, _ =>
      let pieces := Text.split c cs
      let pieces := if pieces.getLast? == some [] then pieces.dropLast else pieces
      pure (pieces.zipIdx)
    | none, some _ =>
      pure (((Octets.bareLines cs).map fun line => line.dropWhile isBlank).filter
        (!·.isEmpty)).zipIdx
    | none, none =>
      match quotedWords (2 * cs.length + 2) 0 none cs with
      | .ok found => pure found
      | .error quote =>
        refuse 1 ("unmatched ".toList ++
          (if quote = '"' then "double" else "single").toList ++
          " quote; by default quotes are special to xargs unless you use the -0 option".toList)
  let items : List (Octets × Nat) := match (g.last? "E").or ((g.last? "eof").filter (!·.isEmpty)) with
    | some word => items.takeWhile fun item => item.1 != word
    | none => items
  let command : List Octets := if g.operands.isEmpty then ["echo".toList] else g.operands
  let commands : List (List Octets) := match mark with
    | some part => items.map fun item =>
        command.map fun word => replaced part item.1 (word.length + 1) word
    | none =>
      let fixed := command.foldl (fun n word => n + word.length + 1) 0
      let groups := groupsOf count lines (size - fixed) [] items
      let groups := if groups.isEmpty && !g.has "no-run-if-empty" then [[]] else groups
      groups.map fun words => command ++ words
  commands.foldlM (fun status argv => do
    if g.has "verbose" then complainWith (List.intercalate [' '] argv)
    let name := argv.head?.getD []
    match ← child (become launch Quote.ifNeeded argv) with
    | .exited 0 => return status
    | .exited 255 =>
      faultWith (name ++ ": exited with status 255; aborting".toList)
      throw (.exit 124)
    | .exited s =>
      if s = 127 || s = 126 then throw (.exit s)
      return 123
    | .killed s =>
      faultWith (name ++ ": terminated by signal ".toList ++ Octets.ofNat s)
      throw (.exit 125)) 0

/-! ## Where programs are -/

def which (_ : Launcher) (args : List Octets) : Run Nat := do
  let all := args.contains "-a".toList
  let names := args.filter fun arg => arg.head? != some '-'
  let p ← get
  names.foldlM (fun status name => do
    let paths := if name.contains '/' then [name]
      else p.searchPath.map fun d => if d.isEmpty then "./".toList ++ name else d ++ '/' :: name
    let found := paths.filter fun path => (p.refusalAt path).isNone
    for path in (if all then found else found.take 1) do putLine path
    return if found.isEmpty then 1 else status) 0

end BoardRig.Toolbox.Launching
