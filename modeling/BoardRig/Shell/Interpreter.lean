/-
Running shell scripts.

Words are expanded, redirections are made, and then a command is looked for:
among the functions, among what the shell does itself, and among the programs
that the search path leads to. `Stop` ends what follows; who catches it
decides how far. The fuel bounds how deep commands nest and how often a loop
repeats.

A command is `tested` if its outcome decides what is done next, so that a
failure is no reason to stop, and it is `last` if nothing is left to be done
behind it, so that a program can take the place of the shell.
-/
import BoardRig.Shell.Field
import BoardRig.Shell.Own
import BoardRig.Shell.Reader
import BoardRig.Toolbox.Table

namespace BoardRig.Shell

/-- How a word is expanded. -/
structure Expansion where
  /-- Into fields. -/
  full : Bool := false
  /-- A tilde at the start stands for a directory. -/
  tilde : Bool := false
  /-- So does one behind a colon. -/
  tildes : Bool := false

namespace State

/-! ## Small steps -/

def homeOf (p : State) (user : Octets) : Option Octets :=
  if user.isEmpty then p.value? "HOME"
  else
    let table := (p.files.read "/etc/passwd").toOption.getD []
    (Octets.bareLines (Octets.ofBytes table)).findSome? fun line =>
      let cells := Text.split ':' line
      if cells.head? == some user then cells[5]? else none

/-- A text in which a tilde at its start stands for a directory. `open` says
that other parts follow. -/
def homed (p : State) (isOpen : Bool) (ending : Char → Bool) (cs : Octets) : List Piece :=
  match cs with
  | '~' :: rest =>
    let user := rest.takeWhile fun c => !ending c
    if isOpen && user.length = rest.length then [.kept false cs]
    else
      match p.homeOf user with
      | some home => [.kept true home, .kept false (rest.drop user.length)]
      | none => [.kept false cs]
  | cs => [.kept false cs]

/-- A bare text with directories in place of tildes. -/
def withHomes (p : State) (e : Expansion) (isFirst isOpen : Bool) (cs : Octets) : List Piece :=
  if e.tildes then
    let parts := Text.split ':' cs
    let count := parts.length
    (parts.zipIdx.flatMap fun (part, n) =>
      let colon : List Piece := if n = 0 then [] else [.kept false [':']]
      let isOpen := isOpen && n + 1 = count
      colon ++ if n = 0 && !isFirst then [.kept false part]
        else p.homed isOpen (fun c => c == '/') part)
  else if e.tilde && isFirst then p.homed isOpen (· == '/') cs
  else [.kept false cs]

/-- What a parameter in a word that has a value is. -/
def pieceOf (p : State) (e : Expansion) (quoted : Bool) (name : String) (cs : Octets) :
    List Piece :=
  if name = "@" || name = "*" then
    let apart := List.intercalate ['\x00'] p.arguments
    if quoted then
      if name = "@" && e.full then [.apart apart] else [.kept true cs]
    else if e.full then [.loose apart] else [.loose cs]
  else [if quoted then .kept true cs else .loose cs]

/-- The parts of a bare word inside of an expansion are loose as well. -/
def loosened (pieces : List Piece) : List Piece :=
  pieces.map fun
    | .kept false cs => .loose cs
    | piece => piece

def fieldsOfPieces (p : State) (pieces : List Piece) : List Octets :=
  let fields := Fields.ofPieces p.separators pieces
  if p.options.contains 'f' then fields.map Pattern.octets
  else fields.flatMap (Pattern.expanded p.files p.directory)

/-- What a command is. -/
inductive Meaning where
  | nothing
  | function (line : Nat) (body : Command)
  | own (special : Bool)
  | program

/-- A command behind `command` and its options: whether there was one, whether
programs are looked for in the usual places, and the rest. -/
def behindCommand (fields : List Octets) : Option (Bool × List Octets) :=
  match fields with
  | ['-', '-'] :: name :: rest => some (false, name :: rest)
  | ['-'] :: rest => some (false, ['-'] :: rest)
  | ('-' :: c :: letters) :: rest =>
    if (c :: letters).all (· == 'p') then
      match rest with
      | ['-', '-'] :: name :: rest => some (true, name :: rest)
      | name :: rest => if name.head? == some '-' then none else some (true, name :: rest)
      | [] => none
    else none
  | name :: rest => some (false, name :: rest)
  | [] => none

/-- A command without `command` in front, as often as it stands there: whether
it did, and whether programs are looked for in the usual places. -/
def stripped (p : State) : (fuel : Nat) → (direct usual : Bool) → List Octets →
    Bool × Bool × List Octets
  | 0, direct, usual, fields => (direct, usual, fields)
  | fuel + 1, direct, usual, fields =>
    match fields with
    | name :: rest =>
      if name = "command".toList && (!direct || (p.functions.lookup "command").isNone) then
        match behindCommand rest with
        | some (usual', fields) => stripped p fuel false (usual || usual') fields
        | none => (direct, usual, fields)
      else (direct, usual, fields)
    | [] => (direct, usual, fields)

/-- Whether the arguments of a command may be assignments. -/
def declares (p : State) (fields : List Octets) : Bool :=
  let (direct, _, fields) := stripped p (fields.length + 1) true false fields
  match fields with
  | name :: _ =>
    let name := String.ofList name
    ["export", "readonly", "local", "alias"].contains name &&
      !(direct && (p.functions.lookup name).isSome)
  | [] => false

def meaningOf (p : State) (direct : Bool) (fields : List Octets) : Meaning :=
  match fields with
  | [] => .nothing
  | name :: _ =>
    let name := String.ofList name
    match (if direct then p.functions.lookup name else none) with
    | some (line, body) => .function line body
    | none =>
      if specialNames.contains name then .own direct
      else if regularNames.contains name then .own false
      else .program

def hasTraps (p : State) : Bool := p.traps.any fun t => !t.2.isEmpty

/-- The state of a copy of a shell: only what is ignored stays so. -/
def copied (p : State) : State := { p with traps := p.traps.filter (·.2.isEmpty) }

/-- Say that a program was ended by a signal. -/
def mourn (ending : Ending) : Run Nat := do
  match ending with
  | .killed signal =>
    let text := Signal.obituary signal
    if text ≠ "" then complain text
  | .exited _ => pure ()
  return ending.status

/-- Stop after a failure if an option says so. -/
def heed (tested : Bool) : Run Unit := do
  let p ← get
  if p.status != 0 && !tested && p.options.contains 'e' then throw (.exit p.status)

/-- Variables that a shell has a value for when nobody gave one. -/
def usualBindings : List (String × String) :=
  [("PATH", Octets.text State.usualSearchPath), ("PS1", "# "), ("PS2", "> "), ("PS4", "+ ")]

/-- Where a variable stands in the list that a shell hands to other programs:
on one of 39 shelves, and on it in front if every shell has the variable. -/
def place (name : String) : Nat :=
  let codes := name.toList.map Char.toNat
  let shelf := (16 * codes.head?.getD 0 + codes.foldl (· + ·) 0) % 39
  2 * shelf + if (usualBindings.lookup name).isSome || name = "IFS" || name = "OPTIND" then 0 else 1

/-- The variables in the order in which a shell hands them to other programs. -/
def inPlace (bindings : List (String × Binding)) : List (String × Binding) :=
  bindings.mergeSort fun a b => place a.1 ≤ place b.1

def asNewShell (name : String) (p : State) : State :=
  let env := p.environment.filter fun v => isName (Octets.ofString v.1)
  let fresh : State := { toKernel := p.toKernel
                         id := p.id, parent := p.parent, script := p.id
                         directory := p.directory, mask := p.mask
                         descriptors := p.descriptors, name
                         traps := p.traps.filter (·.2.isEmpty) }
  let p := fresh.withEnvironment env
  let p := p.bind "IFS" { value := some [' ', '\t', '\n'] }
  let p := p.bind "OPTIND" { value := some ['1'] }
  let p := p.assign "PPID" (Octets.ofNat p.parent)
  let p := usualBindings.foldl (fun p (name, value) =>
    if (p.bindings.lookup name).isSome then p else p.assign name value.toList) p
  let kept := (p.value? "PWD").filter fun cs =>
    cs.head? == some '/' && (p.files.find (Octets.text cs)).toOption ==
      (p.files.find p.directory).toOption
  match kept with
  | some cs => { p with directory := walked "/" (Octets.text cs) }
  | none =>
    let directory := p.physicalDirectory
    { p.bind "PWD" { value := some (Octets.ofString directory), exported := true } with directory }

/-- A redirection whose target is expanded. -/
structure Opening where
  descriptor : Nat
  kind : RedirectKind
  target : Octets

/-- The state with a descriptor for an open file that was just opened. -/
def leading (descriptor : Nat) (r : Except IoError Nat) (otherwise : IoError → Run Unit) :
    Run Unit :=
  match r with
  | .ok id => modify (withDescriptor descriptor id)
  | .error e => otherwise e

def redirectOne (o : Opening) : Run Unit := do
  let p ← get
  let path := p.pathOf o.target
  let shown := Octets.ofString ∘ (": " ++ ·)
  let sink (emptied appends reads : Bool) : Run Unit := do
    leading o.descriptor (← openSink path emptied appends reads) fun e =>
      failWith ("cannot create ".toList ++ o.target ++ shown (sinkMeaning e))
  match o.kind with
  | .read =>
    leading o.descriptor (← openSource path) fun e =>
      failWith ("cannot open ".toList ++ o.target ++ shown (sourceMeaning e))
  | .readWrite => sink false false true
  | .write =>
    if p.options.contains 'C' && p.files.isFile path then
      failWith ("cannot create ".toList ++ o.target ++ ": File exists".toList)
    sink true false false
  | .overwrite => sink true false false
  | .append => sink false true false
  | .here _ =>
    let (k, pipe) := p.toKernel.piped none
    let k := k.modifyPipe pipe ({ · with unread := [⟨0, p.id, o.target⟩] })
    let (k, id) := k.opened { target := .pipe pipe, reads := true }
    set (withDescriptor o.descriptor id { p with toKernel := k })
  | .duplicate _ =>
    match o.target with
    | ['-'] => modify (withoutDescriptor o.descriptor)
    | target =>
      match p.descriptors.lookup (Octets.leadingNat target).1 with
      | some id => modify (withDescriptor o.descriptor id)
      | none => failWith (target ++ ": Bad file descriptor".toList)

/-- Run with some redirections that are taken back afterwards; a failure to
make them is the outcome. -/
def through (openings : List Opening) (act : Run Unit) : Run (Option Nat) := fun p =>
  let touched := openings.map (·.descriptor)
  let restored (q : State) : State :=
    let descriptors := p.descriptors.filter (fun d => touched.contains d.1) ++
      q.descriptors.filter fun d => !touched.contains d.1
    { q with
      toKernel := q.tidied p.next (descriptors.map (·.2)), descriptors }
  match (openings.forM redirectOne : Run Unit) p with
  | (.ok (), q) =>
    match act q with
    | (.ok (), q) => (.ok none, restored q)
    | (.error stop, q) => (.error stop, restored q)
  | (.error (.failed status), q) => (.ok (some status), restored q)
  | (.error stop, q) => (.error stop, restored q)

/-- How a shell ends; what ends a loop does not matter any more. -/
def settled (act : Run Unit) : Run Nat := fun p =>
  match act p with
  | (.ok (), q) => (.ok q.status, q)
  | (.error (.exit status), q) | (.error (.failed status), q) | (.error (.return status), q) =>
    (.ok status, q)
  | (.error (.break _), q) | (.error (.continue _), q) => (.ok q.status, q)
  | (.error stop, q) => (.error stop, q)

/-- Run the body of a function; `return` ends it. -/
def returning (act : Run Unit) : Run Unit := fun p =>
  match act p with
  | (.error (.return status), q) => (.ok (), { q with status })
  | outcome => outcome

/-- Run a command of the shell; a mistake is only a failure. -/
def forgiving (act : Run Nat) : Run Nat := fun p =>
  match act p with
  | (.error (.failed status), q) => (.ok status, q)
  | outcome => outcome

/-- The files that a script to be read in is looked for in. -/
def scriptFile (p : State) (name : Octets) : Option Octets :=
  if name.contains '/' then some name
  else
    (p.searchPath.map fun d => if d.isEmpty then name else d ++ '/' :: name).find? fun path =>
      p.files.isFile (p.pathOf path)

mutual

/-- The pieces of a word, whose parts behind the first are not at its start. -/
def pieces : (fuel : Nat) → Expansion → (isFirst : Bool) → Word → Run (List Piece)
  | 0, _, _, _ => throw .exhausted
  | _ + 1, _, _, [] => pure []
  | fuel + 1, e, isFirst, part :: rest => do
    let first ← match part with
      | .text false cs => do pure ((← get).withHomes e isFirst (!rest.isEmpty) cs)
      | part => expand fuel e part
    return first ++ (← pieces fuel e false rest)
termination_by structural fuel => fuel

def textOf : (fuel : Nat) → Expansion → Word → Run Octets
  | 0, _, _ => throw .exhausted
  | fuel + 1, e, word => do return Piece.octets (← pieces fuel e true word)
termination_by structural fuel => fuel

def patternOf : (fuel : Nat) → Word → Run (List Glyph)
  | 0, _ => throw .exhausted
  | fuel + 1, word => do
    return (← pieces fuel { tilde := true } true word).flatMap Piece.whole
termination_by structural fuel => fuel

def expand : (fuel : Nat) → Expansion → Part → Run (List Piece)
  | 0, _, _ => throw .exhausted
  | _ + 1, _, .text quoted cs => pure [.kept quoted cs]
  | fuel + 1, _, .output quoted script => do
    spend startTime
    let (ending, cs) ← collecting do
      modify copied
      asShell fuel (run fuel false true script)
    modify fun p => { p with takenStatus := ending.status, status := ending.status }
    let cs := Text.dropEndWhile (· == '\n') (cs.filter (· != '\x00'))
    return [if quoted then .kept true cs else .loose cs]
  | fuel + 1, _, .value quoted expression => do
    let text ← textOf fuel {} expression
    let cs := Octets.ofInt (← calculated text)
    return [if quoted then .kept true cs else .loose cs]
  | fuel + 1, e, .parameter quoted name use word => do
    let p ← get
    let value := p.parameter? name
    let isList := name = "@" || name = "*"
    let isMissing (orEmpty : Bool) : Bool := value.isNone || (orEmpty && value == some [])
    let present : List Piece :=
      match value with
      | some cs => p.pieceOf e quoted name cs
      | none => if quoted && name = "@" && e.full then [] else [if quoted then .kept true [] else .loose []]
    let absent : List Piece := [if quoted then .kept true [] else .loose []]
    let simple (cs : Octets) : List Piece := [if quoted then .kept true cs else .loose cs]
    let worded : Run (List Piece) := do
      let ps ← pieces fuel { full := e.full, tilde := !quoted } true word
      return if quoted then (if ps.isEmpty then [.kept true []] else ps)
        else if ps.isEmpty then [.loose []] else loosened ps
    if (use matches .value | .length | .withoutStart _ | .withoutEnd _) && value.isNone &&
        !isList && p.options.contains 'u' then
      fail (name ++ ": parameter not set")
    match use with
    | .unknown => fail "Bad substitution"
    | .value => return present
    | .length => return simple (Octets.ofNat (value.getD []).length)
    | .orElse orEmpty => if isMissing orEmpty then worded else return present
    | .orAssign orEmpty =>
      if isMissing orEmpty then
        let cs ← textOf fuel { tilde := true } word
        if !isName (Octets.ofString name) then fail (name ++ ": bad variable name")
        setVariable name cs
        return simple cs
      else return present
    | .orFail orEmpty =>
      if isMissing orEmpty then
        if word.isEmpty then
          fail (name ++ ": parameter not set" ++ (if orEmpty then " or null" else ""))
        else
          let reason ← textOf fuel {} word
          failWith (Octets.ofString (name ++ ": ") ++ reason)
      else return present
    | .ifSet orEmpty => if isMissing orEmpty then return absent else worded
    | .withoutStart longest =>
      return simple (Pattern.withoutStart longest (← patternOf fuel word) (value.getD []))
    | .withoutEnd longest =>
      return simple (Pattern.withoutEnd longest (← patternOf fuel word) (value.getD []))
termination_by structural fuel => fuel

def fieldsOf : (fuel : Nat) → List Word → Run (List Octets)
  | 0, _ => throw .exhausted
  | _ + 1, [] => pure []
  | fuel + 1, word :: rest => do
    let ps ← pieces fuel { full := true, tilde := true } true word
    let fields := (← get).fieldsOfPieces ps
    return fields ++ (← fieldsOf fuel rest)
termination_by structural fuel => fuel

/-- The fields of a command; an argument may be an assignment. -/
def commandFields : (fuel : Nat) → (before : List Octets) → List Word → Run (List Octets)
  | 0, _, _ => throw .exhausted
  | _ + 1, before, [] => pure before
  | fuel + 1, before, word :: rest => do
    let p ← get
    match (if !before.isEmpty && p.declares before then Word.assignment? word else none) with
    | some (name, value) => do
      let cs ← textOf fuel { tildes := true } value
      commandFields fuel (before ++ [name ++ '=' :: cs]) rest
    | none => do
      let ps ← pieces fuel { full := true, tilde := true } true word
      let fields := (← get).fieldsOfPieces ps
      commandFields fuel (before ++ fields) rest
termination_by structural fuel => fuel

def openings : (fuel : Nat) → List Redirect → Run (List Opening)
  | 0, _ => throw .exhausted
  | _ + 1, [] => pure []
  | fuel + 1, .mk descriptor kind target :: rest => do
    let p ← get
    let text ← match kind with
      | .here document => textOf fuel {} ((p.documents.lookup document).getD [])
      | _ => textOf fuel { tilde := true } target
    let isDigit := text.length = 1 && text.all Char.isDigit
    if (kind matches .duplicate _) && !isDigit && text != ['-'] then
      fail "Syntax error: Bad fd number"
    return ⟨descriptor, kind, text⟩ :: (← openings fuel rest)
termination_by structural fuel => fuel

/-- Expand assignments; each takes effect before the next one. -/
def assignAll : (fuel : Nat) → (apart exports : Bool) → List Word → Run (List Octets)
  | 0, _, _, _ => throw .exhausted
  | _ + 1, _, _, [] => pure []
  | fuel + 1, apart, exports, word :: rest => do
    match Word.assignment? word with
    | none => assignAll fuel apart exports rest
    | some (name, value) => do
      let cs ← textOf fuel { tildes := true } value
      let text := String.ofList name
      if apart then remember text
      setVariable text cs
      if exports then mark text ({ · with exported := true })
      return (name ++ '=' :: cs) :: (← assignAll fuel apart exports rest)
termination_by structural fuel => fuel

/-- Write a command as it is run, if an option asks for it. -/
def trace : (fuel : Nat) → (errors : Option Nat) → List Octets → Run Unit
  | 0, _, _ => throw .exhausted
  | fuel + 1, errors, words => do
    let p ← get
    if p.options.contains 'x' && !words.isEmpty then
      let mark ← match p.value? "PS4" with
        | none => pure ['+', ' ']
        | some cs =>
          match (Reader.quotedParts .document (cs.length + 8) []).run { rest := cs } with
          | .ok (word, _) => textOf fuel {} word
          | .error _ => pure cs
      let q ← get
      match errors with
      | some id => set (withDescriptor 2 id q)
      | none => set (withoutDescriptor 2 q)
      complainWith (mark ++ List.intercalate [' '] words)
      modify fun r => { r with descriptors := q.descriptors }
termination_by structural fuel => fuel

/-- Do what traps say about the signals that have arrived. -/
def heedSignals : (fuel : Nat) → Run Unit
  | 0 => throw .exhausted
  | fuel + 1 => do
    for signal in ← takeSignals do
      let p ← get
      match p.trap? signal with
      | some [] => pure ()
      | some action => do
        runText fuel false false action
        modify fun q => { q with status := p.status }
      | none => if Signal.ends signal then throw (.killed signal)
termination_by structural fuel => fuel

/-- Run as a shell that ends then; yields its status. -/
def asShell : (fuel : Nat) → Run Unit → Run Nat
  | 0, _ => throw .exhausted
  | fuel + 1, act => do
    let status ← settled (do act; heedSignals fuel)
    let p ← get
    match p.trap? 0 with
    | none | some [] => return status
    | some action =>
      set { p with traps := p.traps.filter (·.1 != 0), status }
      fun q =>
        match runText fuel false false action q with
        | (.ok (), q) => (.ok status, q)
        | (.error (.exit status), q) | (.error (.failed status), q) => (.ok status, q)
        | (.error (.killed signal), q) => (.error (.killed signal), q)
        | (.error .late, q) => (.error .late, q)
        | (.error .exhausted, q) => (.error .exhausted, q)
        | (.error _, q) => (.ok status, q)
termination_by structural fuel => fuel

def runText : (fuel : Nat) → (tested last : Bool) → Octets → Run Unit
  | 0, _, _, _ => throw .exhausted
  | fuel + 1, tested, last, script => do
    let p ← get
    runLines fuel tested last 0
      { rest := script, aliases := p.aliases, documents := p.documents, count := p.documentCount }
termination_by structural fuel => fuel

def runLines : (fuel : Nat) → (tested last : Bool) → (status : Nat) → Source → Run Unit
  | 0, _, _, _, _ => throw .exhausted
  | fuel + 1, tested, last, status, source => do
    let p ← get
    match (Reader.nextCommand (Nat.pow 2 24)).run { source with aliases := p.aliases } with
    | .error fault =>
      modify fun p => { p with line := fault.line }
      fail fault.text
    | .ok (none, _) => finish status
    | .ok (some command, source) => do
      modify fun p => { p with documents := source.documents, documentCount := source.count }
      let isLast := last && source.again
      run fuel tested isLast command
      let after ← get
      let status := if command matches .nothing then status else after.status
      runLines fuel tested last status source
termination_by structural fuel => fuel

def execute : (fuel : Nat) → (path : Octets) → List Octets → Run (Except IoError Nat)
  | 0, _, _ => throw .exhausted
  | fuel + 1, path, argv => do
    let p ← get
    match p.executableAt path with
    | .error e => return .error e
    | .ok what => do
      spend startTime
      modify fun q => { q with
        name := Octets.text (argv.head?.getD []), traps := q.traps.filter (·.2.isEmpty)
        bindings := q.bindings.filter fun v => v.2.exported && v.2.value.isSome
        functions := [], aliases := [], options := [], speaker := none, locals := []
        functionLine := 0, loops := 0, unwritten := none }
      match what with
      | .tool name =>
        if name = "sh" || name = "dash" then
          return .ok (← mainShell fuel (argv.drop 1))
        else
          match Toolbox.table.lookup name with
          | some tool => return .ok (← tool (launch fuel) (argv.drop 1))
          | none => return .error .noSuchFile
      | .interpreted program argument =>
        match ← execute fuel program (program :: argument.toList ++ path :: argv.drop 1) with
        | .ok status => return .ok status
        | .error e => return .error e
      | .text _ => return .error .execFormat
termination_by structural fuel => fuel

/-- Go on as a program that is looked for by its name. -/
def launch : (fuel : Nat) → List Octets → Run (Except IoError Nat)
  | 0, _ => throw .exhausted
  | fuel + 1, argv => do
    let p ← get
    match p.findProgram p.systemSearchPath (argv.head?.getD []) with
    | .error e => return .error e
    | .ok path =>
      match ← execute fuel path argv with
      | .error e =>
        if e = .execFormat then
          execute fuel "/bin/sh".toList ("sh".toList :: path :: argv.drop 1)
        else return .error e
      | .ok status => return .ok status
termination_by structural fuel => fuel

/-- Go on as a program, or complain that it cannot be run; yields the status. -/
def become : (fuel : Nat) → (directories : List Octets) → List Octets → Run Nat
  | 0, _, _ => throw .exhausted
  | fuel + 1, directories, argv => do
    let p ← get
    let name := argv.head?.getD []
    let refused (e : IoError) : Run Nat := do
      set { p with toKernel := (← get).toKernel }
      protestWith (name ++ ": ".toList ++ Octets.ofString (programMeaning e))
      let isMissing := isAbsence e || e = .nameTooLong || e = .tooManyLinks
      throw (.exit (if isMissing then 127 else 126))
    match p.findProgram directories name with
    | .error e => refused e
    | .ok path =>
      set { p with bindings := inPlace p.bindings }
      match ← execute fuel path argv with
      | .ok status => return status
      | .error e =>
        if e = .execFormat then
          match ← execute fuel "/bin/sh".toList ("sh".toList :: path :: argv.drop 1) with
          | .ok status => return status
          | .error e => refused e
        else refused e
termination_by structural fuel => fuel

/-- Run a shell with its arguments; yields its status. -/
def mainShell : (fuel : Nat) → List Octets → Run Nat
  | 0, _ => throw .exhausted
  | fuel + 1, args => do
    modify fun p => { asNewShell p.name p with line := 0 }
    settled do
      let (found, rest) ← shellOptions fuel false args
      let start (name : Option Octets) (args : List Octets) : Run Unit :=
        modify fun p => { p with
          name := (name.map Octets.text).getD p.name, arguments := args, line := 1 }
      match found, rest with
      | true, [] => fail "-c requires an argument"
      | true, script :: rest =>
        start rest.head? rest.tail
        finish (← asShell fuel (runText fuel false false script))
      | false, rest => do
        let fromInput := rest.isEmpty || (← get).options.contains 's'
        if fromInput then
          start none rest
          modify (withOption true 's')
          match ← readAll 0 with
          | .ok script => finish (← asShell fuel (runText fuel false false script))
          | .error _ => finish 0
        else
          let file := rest.head?.getD []
          match ← contentAt ((← get).pathOf file) with
          | .ok script =>
            start (some file) rest.tail
            finish (← asShell fuel (runText fuel false false script))
          | .error e =>
            protestWith ("cannot open ".toList ++ file ++
              Octets.ofString (": " ++ sourceMeaning e))
            throw (.exit 2)
termination_by structural fuel => fuel

/-- The options of a shell in front of its arguments; tells whether one of them
asks for the script among the arguments. -/
def shellOptions : (fuel : Nat) → (found : Bool) → List Octets → Run (Bool × List Octets)
  | 0, _, _ => throw .exhausted
  | _ + 1, found, [] => pure (found, [])
  | _ + 1, found, ['-'] :: rest => pure (found, rest)
  | _ + 1, found, ['-', '-'] :: rest => pure (found, rest)
  | fuel + 1, found, (sign :: letters) :: rest => do
    if sign = '-' || sign = '+' then
      let value := sign = '-'
      let (found, rest) ← letters.foldlM (fun (found, rest) c => do
        if c = 'c' && value then return (true, rest)
        else if c = 'o' then
          setNamed value rest.head?
          return (found, rest.drop 1)
        else if c = 'l' then return (found, rest)
        else
          setLetter value c
          return (found, rest)) (found, rest)
      shellOptions fuel found rest
    else return (found, (sign :: letters) :: rest)
  | _ + 1, found, args => pure (found, args)
termination_by structural fuel => fuel

/-- Run a command of the shell; yields its status. -/
def runOwn : (fuel : Nat) → (tested : Bool) → (name : Octets) → List Octets → Run Nat
  | 0, _, _, _ => throw .exhausted
  | fuel + 1, tested, name, args => do
    match String.ofList name with
    | "eval" => do
      let args ← withoutOptions args
      runText fuel tested false (List.intercalate [' '] args)
      return (← get).status
    | "." => do
      match ← withoutOptions args with
      | [] => return 0
      | file :: _ =>
        let p ← get
        match p.scriptFile file with
        | none => failWith (file ++ ": not found".toList)
        | some path =>
          match ← contentAt (p.pathOf path) with
          | .error e =>
            failWith ("cannot open ".toList ++ path ++ Octets.ofString (": " ++ sourceMeaning e))
          | .ok script =>
            speaking path (returning (runText fuel false false script))
            return (← get).status
    | "exec" =>
      match args with
      | [] => return 0
      | args => do
        let directories := (← get).searchPath
        let status ← become fuel directories args
        modify fun p => { p with traps := [] }
        throw (.exit status)
    | "command" => describeOne args
    | text =>
      match own? text args with
      | some act => act
      | none => return 127
termination_by structural fuel => fuel

def runSimple : (fuel : Nat) → (tested last : Bool) → (assignments words : List Word) →
    List Redirect → Run Unit
  | 0, _, _, _, _, _ => throw .exhausted
  | fuel + 1, tested, last, assignments, words, redirects => do
    modify fun p => { p with takenStatus := 0 }
    let all ← commandFields fuel [] words
    let p ← get
    let (direct, usual, fields) := p.stripped (all.length + 1) true false all
    let meaning := p.meaningOf direct fields
    let special := meaning matches .own true
    let apart := !(meaning matches .nothing) && !special
    let name := fields.head?.getD []
    let args := fields.tail
    let errors := p.descriptors.lookup 2
    let openings ← openings fuel redirects
    let stays := name = "exec".toList && args.isEmpty && (meaning matches .own _)
    let exports := apart || (name = "exec".toList && !args.isEmpty)
    let act : Run Unit := (if apart then framed else fun act => act) do
      let assigned ← assignAll fuel apart exports assignments
      trace fuel errors (assigned ++ all)
      match meaning with
      | .nothing => finish (← get).takenStatus
      | .own _ =>
        let body := asOwn name (runOwn fuel tested name args)
        finish (← if special then body else forgiving body)
      | .function line body => do
        let p ← get
        modify fun q => { q with
          arguments := args, functionLine := line, loops := 0, optionPlace := 1, optionOffset := 0 }
        let r ← (fun s =>
          let (r, q) := returning (run fuel tested false body) s
          (.ok r, { q with
            arguments := p.arguments, functionLine := p.functionLine, loops := p.loops
            optionPlace := p.optionPlace, optionOffset := p.optionOffset }) : Run (Except Stop Unit))
        match r with
        | .ok () => pure ()
        | .error stop => throw stop
      | .program => do
        let p ← get
        let directories := if usual then Text.split ':' usualSearchPath else p.searchPath
        let found ← if name.contains '/' then pure (.ok name) else track name directories
        match found with
        | .error e => do
          protestWith (name ++ ": ".toList ++ Octets.ofString (programMeaning e))
          finish 127
        | .ok _ =>
          if last && !p.hasTraps then throw (.exit (← become fuel directories fields))
          else
            let ending ← child (become fuel directories fields)
            finish (← mourn ending)
    if stays then
      match ← (fun s =>
          match (openings.forM redirectOne : Run Unit) s with
          | (.error (.failed status), q) => (.ok (some status), q)
          | (.error stop, q) => (.error stop, q)
          | (.ok (), q) => (.ok none, q) : Run (Option Nat)) with
      | some status => do finish status; throw (.failed status)
      | none => act
    else
      match ← through openings act with
      | none => pure ()
      | some status => do
        finish status
        if special then throw (.failed status)
    heed tested
termination_by structural fuel => fuel

/-- Run the body of a loop for each of some values. -/
def runForEach : (fuel : Nat) → (tested : Bool) → String → Command → List Octets → Run Unit
  | 0, _, _, _, _ => throw .exhausted
  | _ + 1, _, _, _, [] => pure ()
  | fuel + 1, tested, name, body, value :: rest => do
    setVariable name value
    if ← iteration (run fuel tested false body) then runForEach fuel tested name body rest
    else finish 0
termination_by structural fuel => fuel

/-- Run the body of a loop while its condition says so. -/
def runLoop : (fuel : Nat) → (tested untilSuccess : Bool) → Command → Command → (last : Nat) →
    Run Unit
  | 0, _, _, _, _, _ => throw .exhausted
  | fuel + 1, tested, untilSuccess, condition, body, last => do
    stepOn
    let decides : Run Unit := do
      run fuel true false condition
      if ((← get).status == 0) == untilSuccess then throw (.break 1)
    if ← iteration decides then
      if ← iteration (run fuel tested false body) then
        runLoop fuel tested untilSuccess condition body (← get).status
      else finish 0
    else finish last
termination_by structural fuel => fuel

/-- Run the first branch that has a pattern which matches. -/
def runBranches : (fuel : Nat) → (tested last : Bool) → Octets → List (List Word × Command) →
    Run Unit
  | 0, _, _, _, _ => throw .exhausted
  | _ + 1, _, _, _, [] => finish 0
  | fuel + 1, tested, last, subject, ([], _) :: rest =>
    runBranches fuel tested last subject rest
  | fuel + 1, tested, last, subject, (pattern :: patterns, body) :: rest => do
    let glyphs ← patternOf fuel pattern
    if Pattern.fits glyphs subject then
      if body matches .nothing then finish 0 else run fuel tested last body
    else runBranches fuel tested last subject ((patterns, body) :: rest)
termination_by structural fuel => fuel

/-- Run commands at the same time, each reading what the one before writes. -/
def runStages : (fuel : Nat) → (tested : Bool) → List Command → Rest
  | 0, _, _ => throw .exhausted
  | fuel + 1, tested, commands =>
    let stage (command : Command) : Run Nat := do
      modify copied
      asShell fuel (run fuel tested true command)
    match commands with
    | [] => do return (.exited 0, (← get).time)
    | [command] => do
      spend startTime
      let ending ← child (stage command)
      return (ending, (← get).time)
    | command :: rest => do
      spend startTime
      connected (stage command) (runStages fuel tested rest) 8 pipeLimit none
termination_by structural fuel => fuel

def run : (fuel : Nat) → (tested last : Bool) → Command → Run Unit
  | 0, _, _, _ => throw .exhausted
  | fuel + 1, tested, last, command => do
    heedSignals fuel
    if (← get).options.contains 'n' then return
    let at' (line : Nat) : Run Unit := modify fun p => { p with line }
    match command with
    | .nothing => pure ()
    | .simple line assignments words redirects => do
      stepOn
      at' line
      runSimple fuel tested last assignments words redirects
    | .pipe commands => do
      stepOn
      let (ending, _) ← runStages fuel tested commands
      finish (← mourn ending)
      heed tested
    | .negated command => do
      run fuel true false command
      finish (if (← get).status = 0 then 1 else 0)
    | .joined .always first second => do
      run fuel tested false first
      run fuel tested last second
    | .joined joint first second => do
      run fuel true false first
      let succeeded := (← get).status == 0
      if succeeded == (joint == .success) then run fuel tested last second
    | .background command => do
      let id ← beside do
        modify copied
        let null ← openSource "/dev/null"
        leading 0 null fun _ => pure ()
        asShell fuel (run fuel false true command)
      modify fun p => { p with lastJob := some id, status := 0 }
    | .choose condition yes no => do
      run fuel true false condition
      if (← get).status = 0 then run fuel tested last yes
      else
        match no with
        | .nothing => finish 0
        | no => run fuel tested last no
    | .repeated untilSuccess condition body =>
      inLoop (runLoop fuel tested untilSuccess condition body 0)
    | .forEach line name words body => do
      at' line
      let values ← fieldsOf fuel words
      finish 0
      inLoop (runForEach fuel tested name body values)
    | .select line subject branches => do
      at' line
      let subject ← textOf fuel { tilde := true } subject
      runBranches fuel tested last subject branches
    | .subshell line inner redirects => do
      stepOn
      at' line
      let openings ← openings fuel redirects
      let act : Run Nat := do
        modify copied
        asShell fuel do
          openings.forM redirectOne
          run fuel tested true inner
      spend startTime
      if last && !(← get).hasTraps then throw (.exit (← act))
      else
        let ending ← child act
        finish (← mourn ending)
        heed tested
    | .redirected line inner redirects => do
      at' line
      let openings ← openings fuel redirects
      if let some status ← through openings (run fuel tested false inner) then finish status
    | .function line name body => do
      modify fun p => { p with
        functions := (name, line, body) :: p.functions.filter (·.1 != name)
        tracked := p.tracked.filter (·.1 != name) }
      finish 0
    heedSignals fuel
termination_by structural fuel => fuel

end

/-- How deep commands may nest, and how often a loop may repeat. -/
def patience : Nat := Nat.pow 2 24

end State

end BoardRig.Shell
