/-
Reading scripts that edit a text.

A script comes in pieces, each an argument or a file; they are read as lines
one behind the other. What is wrong is told with the piece and the place in
it.
-/
import BoardRig.Regex.Reader
import BoardRig.Shell.Escape
import BoardRig.Toolbox.Basic
import BoardRig.Toolbox.Edit.Command

namespace BoardRig.Toolbox.Edit

open Shell

/-- A piece of a script: the file it comes from, or none if it is an argument. -/
structure Piece where
  file : Option Octets
  text : Octets

/-- What has been read of a script. -/
structure Progress where
  extended : Bool
  rest : Octets
  /-- How much was read. -/
  used : Nat := 0
  commands : Array Command := #[]
  /-- The commands that opened braces, with the places behind them. -/
  blocks : List (Nat × Nat) := []

/-- What is wrong with a script: a text, and how much was read when that was
found. -/
structure Fault where
  text : Octets
  used : Nat
  /-- Whether the place in the piece is told. -/
  placed : Bool := true
  status : Nat := 1

abbrev Reading := StateT Progress (Except Fault)

namespace Reading

def failWith {α : Type} (text : Octets) : Reading α := do throw ⟨text, (← get).used, true, 1⟩

def fail {α : Type} (text : String) : Reading α := failWith text.toList

def next : Reading (Option Char) := do
  let p ← get
  match p.rest with
  | c :: rest =>
    set { p with rest, used := p.used + 1 }
    return some c
  | [] => return none

def peek : Reading (Option Char) := return (← get).rest.head?

/-- All characters of which something holds, up to the first that it does not
hold of. -/
def span (holds : Char → Bool) : Reading Octets := do
  let p ← get
  let head := p.rest.takeWhile holds
  set { p with rest := p.rest.drop head.length, used := p.used + head.length }
  return head

def nextBehindBlanks : Reading (Option Char) := do
  let _ ← span isBlank
  next

def number : Reading Nat := return (Octets.leadingNat (← span Char.isDigit)).1

/-- The rest of a line, with its ending taken. -/
def line : Reading Octets := do
  let cs ← span (· != '\n')
  let _ ← next
  return cs

end Reading

open Reading

/-! ## Escapes -/

/-- The character that letters and digits behind a backslash stand for, and the
text behind them. -/
def escape? : Octets → Option (Char × Octets)
  | 'c' :: c :: rest => some (Char.ofNat (c.toUpper.toNat ^^^ 64), rest)
  | 'd' :: rest => numbered 10 3 rest
  | 'o' :: rest => numbered 8 3 rest
  | 'x' :: rest => numbered 16 2 rest
  | c :: rest =>
    if c = 'b' || c = 'e' then none else (Escape.control? c).map fun d => (d, rest)
  | [] => none
where
  /-- A character by number. -/
  numbered (base count : Nat) (cs : Octets) : Option (Char × Octets) :=
    if cs.head?.any fun c => (Radix.digit? base c).isSome then
      some (Escape.numbered base count cs)
    else none

/-- A text with escapes put in; what stands behind other backslashes stays. -/
def unescaped : (fuel : Nat) → Octets → Octets
  | 0, cs => cs
  | _ + 1, [] => []
  | _ + 1, ['\\'] => ['\\']
  | fuel + 1, '\\' :: c :: rest =>
    match escape? (c :: rest) with
    | some (d, rest) => d :: unescaped fuel rest
    | none => '\\' :: c :: unescaped fuel rest
  | fuel + 1, c :: rest => c :: unescaped fuel rest

/-- A text with escapes put in and without other backslashes. -/
def plainText : (fuel : Nat) → Octets → Octets
  | 0, cs => cs
  | _ + 1, [] => []
  | _ + 1, ['\\'] => []
  | fuel + 1, '\\' :: c :: rest =>
    match escape? (c :: rest) with
    | some (d, rest) => d :: plainText fuel rest
    | none => c :: plainText fuel rest
  | fuel + 1, c :: rest => c :: plainText fuel rest

/-! ## Texts between delimiters -/

/-- The rest of a set of characters, with its closing bracket; `name` is the sign
before the end of the name of a class. -/
def setRest : (name : Option Char) → Octets → Option Octets
  | _, [] => none
  | none, ']' :: _ => some [']']
  | none, '[' :: ':' :: rest => (setRest (some ':') rest).map fun cs => '[' :: ':' :: cs
  | none, '[' :: '.' :: rest => (setRest (some '.') rest).map fun cs => '[' :: '.' :: cs
  | none, '[' :: '=' :: rest => (setRest (some '=') rest).map fun cs => '[' :: '=' :: cs
  | none, c :: rest => (setRest none rest).map (c :: ·)
  | some k, c :: ']' :: rest =>
    if c = k then (setRest none rest).map fun cs => c :: ']' :: cs
    else (setRest (some k) (']' :: rest)).map (c :: ·)
  | some k, c :: rest => (setRest (some k) rest).map (c :: ·)

/-- A set of characters behind its opening bracket. -/
def setBehind (cs : Octets) : Option Octets :=
  let (caret, rest) := if cs.head? == some '^' then (['^'], cs.drop 1) else ([], cs)
  let (first, rest) := if rest.head? == some ']' then ([']'], rest.drop 1) else ([], rest)
  (setRest none rest).map fun cs => caret ++ first ++ cs

/-- The text up to a delimiter, which is taken too. `expression` says that a
bracket opens a set, in which a delimiter is none. Nothing if there is no
delimiter on the line. -/
def delimited (delimiter : Char) (expression : Bool) : (fuel : Nat) → (before : Octets) →
    Reading (Option Octets)
  | 0, _ => return none
  | fuel + 1, before => do
    match ← peek with
    | none => return none
    | some '\n' => return none
    | some c =>
      let _ ← next
      if c = delimiter then return some before.reverse
      else if c = '\\' then
        match ← next with
        | none => return none
        | some e =>
          if e = delimiter && !(e = '&' && !expression) then
            delimited delimiter expression fuel (e :: before)
          else if e = '\n' then delimited delimiter expression fuel ('\n' :: before)
          else if e = 'n' && expression then delimited delimiter expression fuel ('\n' :: before)
          else delimited delimiter expression fuel (e :: '\\' :: before)
      else if c = '[' && expression then
        match setBehind (← get).rest with
        | some cs =>
          modify fun p => { p with rest := p.rest.drop cs.length, used := p.used + cs.length }
          delimited delimiter expression fuel (cs.reverse ++ '[' :: before)
        | none =>
          let _ ← span fun _ => true
          return none
      else delimited delimiter expression fuel (c :: before)

/-- The expression that a text is; none if it is empty. -/
def expression (ignoreCase lines : Bool) (groups : Nat) (cs : Octets) :
    Reading (Option Regex) := do
  if cs.isEmpty then
    if ignoreCase || lines then fail "cannot specify modifiers on empty regexp"
    return none
  else
    let dialect : Regex.Dialect := {
      extended := (← get).extended, ignoreCase, lines, strict := true }
    match Regex.read dialect (unescaped (cs.length + 1) cs) with
    | .ok parsed =>
      if parsed.groups < groups then
        failWith ("invalid reference \\".toList ++ Octets.ofNat groups ++
          " on \x60s' command's RHS".toList)
      return some parsed.expression
    | .error .looseClass => do throw ⟨Regex.Fault.looseClass.text.toList, (← get).used, false, 4⟩
    | .error e => fail e.text

/-! ## Addresses -/

/-- The letters behind an expression in an address. -/
def addressFlags : (fuel : Nat) → (ignoreCase lines : Bool) → Reading (Bool × Bool)
  | 0, i, m => return (i, m)
  | fuel + 1, i, m => do
    let _ ← span isBlank
    match ← peek with
    | some 'I' =>
      let _ ← next
      addressFlags fuel true m
    | some 'M' =>
      let _ ← next
      addressFlags fuel i true
    | _ => return (i, m)

def address? : Reading (Option Finish) := do
  match ← peek with
  | some '$' =>
    let _ ← next
    return some (.address .last)
  | some '+' =>
    let _ ← next
    let _ ← span isBlank
    return some (.further (← number))
  | some '~' =>
    let _ ← next
    let _ ← span isBlank
    return some (.multiple (← number))
  | some c =>
    if c.isDigit then
      let first ← number
      let _ ← span isBlank
      if (← peek) == some '~' then
        let _ ← next
        let _ ← span isBlank
        let step ← number
        return some (.address (if step = 0 then .line first else .every first step))
      else return some (.address (.line first))
    else if c = '/' || c = '\\' then
      let _ ← next
      let delimiter ← if c = '\\' then next else pure (some '/')
      let cs ← match delimiter with
        | some d => delimited d true ((← get).rest.length + 1) []
        | none => pure none
      match cs with
      | none => fail "unterminated address regex"
      | some cs =>
        let (ignoreCase, lines) ← addressFlags (← get).rest.length false false
        return some (.address (.found (← expression ignoreCase lines 0 cs)))
    else return none
  | none => return none

/-- The lines at which a command acts. -/
def place : Reading Place := do
  match ← address? with
  | none => return .everywhere
  | some (.address a) =>
    let _ ← span isBlank
    let isZero : Bool := match a with
      | .line 0 => true
      | _ => false
    if (← peek) == some ',' then
      let _ ← next
      let _ ← span isBlank
      match ← address? with
      | none =>
        let _ ← next
        fail "unexpected \x60,'"
      | some finish =>
        let isFound : Bool := match finish with
          | .address (.found _) => true
          | _ => false
        if isZero && !isFound then
          let _ ← nextBehindBlanks
          fail "invalid usage of line address 0"
        return .range a finish
    else
      if isZero then
        let _ ← next
        fail "invalid usage of line address 0"
      return .at a
  | some _ => fail "invalid usage of +N or ~N as first address"

/-! ## Commands -/

/-- The end of a command, behind which the next may stand. -/
def commandEnd : Reading Unit := do
  let _ ← span isBlank
  match ← peek with
  | some '\x7d' | some '#' | none => return
  | some c =>
    let _ ← next
    if c != '\n' && c != ';' then fail "extra characters after command"

def label : Reading Octets := do
  let _ ← span isBlank
  let cs ← span fun c => !isSpace c && !"#;\x7d".toList.contains c
  return cs

/-- The name of a file, which takes the rest of the line. -/
def fileName : Reading Octets := do
  let _ ← span isBlank
  let cs ← line
  if cs.isEmpty then fail "missing filename in r/R/w/W commands"
  return cs

/-- The text up to the end of a line that no backslash takes away. -/
def textLines : (fuel : Nat) → (before : Octets) → Reading Octets
  | 0, before => return before.reverse
  | fuel + 1, before => do
    match ← next with
    | none => return ('\n' :: before).reverse
    | some '\n' => return ('\n' :: before).reverse
    | some '\\' =>
      match ← next with
      | none => return ('\n' :: before).reverse
      | some c => textLines fuel (c :: '\\' :: before)
    | some c => textLines fuel (c :: before)

def addedText : Reading Octets := do
  let _ ← span isBlank
  match ← peek with
  | none => fail "expected \\ after \x60a', \x60c' or \x60i'"
  | some '\\' =>
    let _ ← next
    let before ← get
    let blanks ← span isBlank
    match ← peek with
    | none => return []
    | some '\n' =>
      let _ ← next
      if (← peek).isNone then return []
    | some _ => if !blanks.isEmpty then set before
  | some _ => pure ()
  let cs ← textLines ((← get).rest.length + 1) []
  return plainText (cs.length + 1) cs

/-- A text put together from its parts. -/
def partsOf : (fuel : Nat) → (before : Octets) → Octets → List Part
  | 0, _, _ => []
  | _ + 1, before, [] => close before
  | fuel + 1, before, '&' :: rest => close before ++ .group 0 :: partsOf fuel [] rest
  | fuel + 1, before, '\\' :: c :: rest =>
    let with' (p : Part) : List Part := close before ++ p :: partsOf fuel [] rest
    if c.isDigit then with' (.group (c.toNat - 48))
    else
      match c with
      | 'U' => with' (.casing .upper)
      | 'L' => with' (.casing .lower)
      | 'E' => with' (.casing .plain)
      | 'u' => with' (.casing .upperNext)
      | 'l' => with' (.casing .lowerNext)
      | _ =>
        match escape? (c :: rest) with
        | some (d, rest) => partsOf fuel (d :: before) rest
        | none => partsOf fuel (c :: before) rest
  | fuel + 1, before, c :: rest => partsOf fuel (c :: before) rest
where
  /-- What was read so far as a part. -/
  close (before : Octets) : List Part := if before.isEmpty then [] else [.text before.reverse]

def greatestGroup (parts : List Part) : Nat :=
  parts.foldl (fun n p => match p with
    | .group k => max n k
    | _ => n) 0

/-- The letters behind a substitution. -/
structure Letters where
  first : Option Nat := none
  all : Bool := false
  prints : Bool := false
  runs : Bool := false
  ignoreCase : Bool := false
  lines : Bool := false
  file : Option Octets := none

/-- Read the letters behind a substitution. -/
def letters : (fuel : Nat) → Letters → Reading Letters
  | 0, l => return l
  | fuel + 1, l => do
    match ← peek with
    | none | some '\x7d' | some '#' => return l
    | some c =>
      if c.isDigit then
        let n ← number
        if l.first.isSome then fail "multiple number options to \x60s' command"
        if n = 0 then fail "number option to \x60s' command may not be zero"
        letters fuel { l with first := some n }
      else
        let _ ← next
        match c with
        | '\n' | ';' => return l
        | ' ' | '\t' | '\r' => letters fuel l
        | 'i' | 'I' => letters fuel { l with ignoreCase := true }
        | 'm' | 'M' => letters fuel { l with lines := true }
        | 'e' => letters fuel { l with runs := true }
        | 'p' =>
          if l.prints then fail "multiple \x60p' options to \x60s' command"
          letters fuel { l with prints := true }
        | 'g' =>
          if l.all then fail "multiple \x60g' options to \x60s' command"
          letters fuel { l with all := true }
        | 'w' => return { l with file := some (← fileName) }
        | _ => fail "unknown option to \x60s'"

def substitution : Reading Substitution := do
  let unterminated {α : Type} : Reading α := fail "unterminated \x60s' command"
  match ← next with
  | none => unterminated
  | some delimiter =>
    let size := (← get).rest.length + 1
    match ← delimited delimiter true size [] with
    | none => unterminated
    | some pattern =>
      match ← delimited delimiter false size [] with
      | none => unterminated
      | some text =>
        let parts := partsOf (text.length + 1) [] text
        let l ← letters size {}
        let pattern ← expression l.ignoreCase l.lines (greatestGroup parts) pattern
        return {
          pattern, parts, first := l.first.getD 1, all := l.all, prints := l.prints
          runs := l.runs, file := l.file }

/-- The characters of a side of a translation. -/
def translated (delimiter : Char) : (fuel : Nat) → Octets → Octets
  | 0, _ => []
  | _ + 1, [] => []
  | fuel + 1, '\\' :: c :: rest =>
    if c = '\\' || c = delimiter then c :: translated delimiter fuel rest
    else
      match escape? (c :: rest) with
      | some (d, rest) => d :: translated delimiter fuel rest
      | none => c :: translated delimiter fuel rest
  | fuel + 1, c :: rest => c :: translated delimiter fuel rest

def translation : Reading (List (Char × Char)) := do
  let unterminated {α : Type} : Reading α := fail "unterminated \x60y' command"
  match ← next with
  | none => unterminated
  | some delimiter =>
    let size := (← get).rest.length + 1
    match ← delimited delimiter false size [] with
    | none => unterminated
    | some source =>
      match ← delimited delimiter false size [] with
      | none => unterminated
      | some target =>
        let source := translated delimiter (source.length + 1) source
        let target := translated delimiter (target.length + 1) target
        if source.length != target.length then
          fail "strings for \x60y' command are different lengths"
        commandEnd
        return source.zip target

/-- A command without anything behind it. -/
def alone (a : Action) : Reading Action := do
  commandEnd
  return a

def number? : Reading (Option Nat) := do
  let _ ← span isBlank
  let n ← if (← peek).any Char.isDigit then some <$> number else pure none
  commandEnd
  return n

def action (p : Place) (letter : Char) : Reading Action := do
  let isRange : Bool := match p with
    | .range _ _ => true
    | _ => false
  match letter with
  | '=' => alone .number
  | 'd' => alone .delete
  | 'D' => alone .deleteLine
  | 'F' => alone .name
  | 'g' => alone .recall
  | 'G' => alone .recallMore
  | 'h' => alone .keep
  | 'H' => alone .keepMore
  | 'n' => alone .next
  | 'N' => alone .nextMore
  | 'p' => alone .print
  | 'P' => alone .printLine
  | 'x' => alone .exchange
  | 'z' => alone .clear
  | 'l' => return .show (← number?)
  | 'q' | 'Q' =>
    if isRange then fail "command only uses one address"
    let n := (← number?).getD 0
    return if letter = 'q' then .quit n else .quitSilently n
  | 'a' => return .append (← addedText)
  | 'i' => return .insert (← addedText)
  | 'c' => return .change (← addedText)
  | 'e' =>
    let _ ← span isBlank
    return .run (← line)
  | ':' =>
    match p with
    | .everywhere =>
      let name ← label
      if name.isEmpty then fail "\":\" lacks a label"
      return .label name
    | _ => fail ": doesn't want any addresses"
  | 'b' => return .jump (← label)
  | 't' => return .jumpIfChanged (← label)
  | 'T' => return .jumpIfUnchanged (← label)
  | 'r' => return .insertFile (← fileName)
  | 'R' => return .insertLine (← fileName)
  | 'w' => return .write (← fileName)
  | 'W' => return .writeLine (← fileName)
  | 's' => return .substitute (← substitution)
  | 'y' => return .translate (← translation)
  | 'v' =>
    let version ← label
    match Octets.leadingNat version with
    | (n, _) => if 4 < n then fail "expected newer version of sed"
    return .nothing
  | c => failWith ("unknown command: \x60".toList ++ [c, '\''])

def commands : (fuel : Nat) → Reading Unit
  | 0 => return
  | fuel + 1 => do
    let _ ← span fun c => isSpace c || c == ';'
    if (← peek).isNone then return
    let start := (← get).used
    let place ← place
    let _ ← span isBlank
    let negated := (← peek) == some '!'
    if negated then
      let _ ← next
      let _ ← span isBlank
      if (← peek) == some '!' then
        let _ ← next
        fail "multiple \x60!'s"
    let anywhere : Bool := match place with
      | .everywhere => true
      | _ => false
    match ← next with
    | none => fail "missing command"
    | some '#' =>
      if !anywhere then fail "comments don't accept any addresses"
      let _ ← line
    | some '\x7b' =>
      modify fun p => { p with
        blocks := (p.commands.size, start) :: p.blocks
        commands := p.commands.push ⟨place, !negated, .skip 0⟩ }
    | some '\x7d' =>
      let p ← get
      match p.blocks with
      | [] => fail "unexpected \x60\x7d'"
      | (opened, _) :: blocks =>
        if !anywhere then fail "\x7d doesn't want any addresses"
        commandEnd
        modify fun p => { p with
          blocks, commands := p.commands.modify opened fun c =>
            { c with action := .skip p.commands.size } }
    | some letter =>
      let action ← action place letter
      modify fun p => { p with commands := p.commands.push ⟨place, negated, action⟩ }
    commands fuel

/-! ## Scripts -/

/-- A script that was read. -/
structure Script where
  commands : Array Command
  /-- Whether its first line asks for silence. -/
  silent : Bool

def placeOf (pieces : List Piece) (f : Fault) : Octets :=
  let rec go (used argument : Nat) : List Piece → Octets
    | [] => []
    | p :: rest =>
      let argument := if p.file.isNone then argument + 1 else argument
      if p.text.length + 1 < used && !rest.isEmpty then go (used - (p.text.length + 1)) argument rest
      else
        let place := min used p.text.length
        match p.file with
        | none => "-e expression #".toList ++ Octets.ofNat argument ++ ", char ".toList ++
            Octets.ofNat (if f.placed then place else 0) ++ ": ".toList
        | some file => "file ".toList ++ file ++ " line ".toList ++
            Octets.ofNat (1 + (p.text.take place).count '\n') ++ ": ".toList
  go f.used 0 pieces

/-- The script that pieces are, or what is wrong with it and the status for
that. -/
def read (extended : Bool) (pieces : List Piece) : Except (Octets × Nat) Script := do
  let text := List.intercalate ['\n'] (pieces.map (·.text))
  let silent := "#n\n".toList.isPrefixOf (text ++ ['\n'])
  let outcome := (commands (text.length + 1)).run { extended, rest := text }
  match outcome with
  | .error f =>
    throw (if f.placed then (placeOf pieces f ++ f.text, f.status) else (f.text, f.status))
  | .ok (_, p) =>
    match p.blocks.getLast? with
    | some (_, start) => 
      throw (placeOf pieces ⟨[], start + 1, false, 1⟩ ++ "unmatched \x60\x7b'".toList, 1)
    | none => return ⟨p.commands, silent⟩

/-- The labels of a script with the commands behind them. -/
def labels (commands : Array Command) : List (Octets × Nat) :=
  commands.toList.zipIdx.filterMap fun (c, n) => match c.action with
    | .label name => some (name, n)
    | _ => none

def missingLabels (commands : Array Command) : List Octets :=
  let known := labels commands
  commands.toList.filterMap fun c => match c.action with
    | .jump name | .jumpIfChanged name | .jumpIfUnchanged name =>
      if name.isEmpty || (known.lookup name).isSome then none else some name
    | _ => none

end BoardRig.Toolbox.Edit
