/-
Editing a text line by line.

Each line is taken into a space of its own, the commands of a script are run
on it, and what is left is written. A second space keeps texts between lines.
Texts that are added behind a line wait until it is written.
-/
import BoardRig.FileSystem.Names
import BoardRig.Regex.Matching
import BoardRig.Toolbox.Edit.Reader
import BoardRig.Toolbox.Launching
import BoardRig.Toolbox.Source

namespace BoardRig.Toolbox.Edit

open Shell State

/-- What editing is asked for. -/
structure Wish where
  silent : Bool
  /-- Whether each file has lines of its own. -/
  apart : Bool
  /-- Whether files are changed, and how a copy of what they were is named. -/
  inPlace : Option Octets
  /-- What ends a line. -/
  separator : Char
  /-- How wide lines are shown. -/
  width : Nat
  /-- How a fault is introduced that has no place in the script. -/
  nowhere : Octets

/-- What waits to be written behind a line. -/
inductive Waiting where
  | text (cs : Octets)
  | file (name : Octets)

/-- How far a range of lines has come. -/
inductive RangeState where
  | closed
  /-- Open up to a line. -/
  | upTo (line : Nat)
  /-- Open until its end is found. -/
  | open

/-- The state of editing. -/
structure Editor where
  space : Octets := []
  hold : Octets := []
  /-- Whether the line had an ending. -/
  ended : Bool := true
  line : Nat := 0
  changed : Bool := false
  waiting : List Waiting := []
  /-- The expression that was used last. -/
  last : Option Regex := none
  ranges : List (Nat × RangeState) := []
  source : Option Source := none
  /-- The name of the file that is read. -/
  file : Octets := ['-']
  /-- The files that are not read yet. -/
  files : List Octets
  /-- The files that lines are taken from or written to. -/
  sources : List (Octets × Source) := []
  sinks : List (Octets × Nat) := []
  /-- The descriptors whose last line had no ending. -/
  unended : List Nat := []
  /-- The descriptor that is written to. -/
  output : Nat := 1
  /-- What was written in place of the file, the last part in front. -/
  gathered : Option (List Octets) := none
  status : Nat := 0

abbrev Editing := StateT Editor Run

/-! ## Output -/

def stopWith {α : Type} (cs : Octets) (e : IoError) : Run α :=
  refuse 4 (cs ++ ": ".toList ++ Octets.ofString (meaning e))

/-- Write to a descriptor. The output goes into the file that is changed, if
there is one. -/
def send (sink : Nat) (cs : Octets) : Editing Unit := do
  let e ← get
  match e.gathered with
  | some parts =>
    if sink = e.output then set { e with gathered := some (cs :: parts) } else State.write sink cs
  | none => if !cs.isEmpty then State.write sink cs

/-- Write to a descriptor, behind the ending that the line before had not. -/
def write (w : Wish) (sink : Nat) (cs : Octets) : Editing Unit := do
  let e ← get
  if e.unended.contains sink then
    set { e with unended := e.unended.filter (· != sink) }
    send sink [w.separator]
  send sink cs

/-- Write a line, with an ending if the line that was read had one. -/
def writeLine (w : Wish) (sink : Nat) (cs : Octets) : Editing Unit := do
  if (← get).ended then write w sink (cs ++ [w.separator])
  else
    write w sink cs
    modify fun e => { e with unended := sink :: e.unended }

def writeWaiting (w : Wish) : Editing Unit := do
  let waiting := (← get).waiting
  modify fun e => { e with waiting := [] }
  for item in waiting do
    match item with
    | .text cs => write w (← get).output cs
    | .file name =>
      if let .ok cs ← (contentOf (if name = "/dev/stdin".toList then ['-'] else name) : Run _) then
        if !cs.isEmpty then write w (← get).output cs

/-! ## Input -/

/-- Put what was written in place of a file. -/
def putBack (w : Wish) : Editing Unit := do
  let e ← get
  match e.gathered, w.inPlace with
  | some parts, some ending =>
    let p ← (MonadState.get : Run State)
    let path := p.pathOf e.file
    let mode := ((p.files.find path).toOption.bind p.files.node?).map (·.mode)
    let cut := e.file.length - ((e.file.reverse.takeWhile (· != '/')).length)
    let name := e.file.drop cut
    let copy := if ending.contains '*' then
        ending.flatMap fun c => if c = '*' then name else [c]
      else name ++ ending
    if !ending.isEmpty then
      let target := p.pathOf (if copy.contains '/' then copy else e.file.take cut ++ copy)
      (modify fun p => { p with
        files := ((p.files.rename path target).toOption).getD p.files } : Run Unit)
    else
      (modify fun p => { p with files := ((p.files.unlink path).toOption).getD p.files } : Run Unit)
    (modify fun p => { p with
      files := ((p.files.install path (Octets.toBytes parts.reverse.flatten) false).toOption).getD
        p.files } : Run Unit)
    if let some mode := mode then
      (modify fun p => { p with files := ((p.files.setMode path mode).toOption).getD p.files } :
        Run Unit)
    modify fun e => { e with gathered := none, unended := [] }
  | _, _ => return

/-- Open the next file that can be read; tells whether there is one. -/
def openNext (w : Wish) : (fuel : Nat) → Editing Bool
  | 0 => return false
  | fuel + 1 => do
    let e ← get
    match e.files with
    | [] => return false
    | file :: files =>
      modify fun e => { e with files, file }
      match ← (Source.ofFile file : Run _) with
      | .error failure =>
        (faultAt ("can't read ".toList ++ file) failure : Run Unit)
        modify fun e => { e with status := 2 }
        openNext w fuel
      | .ok source =>
        if w.inPlace.isSome then
          let p ← (MonadState.get : Run State)
          let isFile : Bool := match (p.files.find (p.pathOf file)).toOption.bind p.files.content? with
            | some (.file _) => true
            | _ => false
          if !isFile then
            (faultWith ("couldn't edit ".toList ++ file ++ ": not a regular file".toList) : Run Unit)
            modify fun e => { e with status := 4 }
            openNext w fuel
          else
            modify fun e => { e with
              source := some source, gathered := some [], line := 0, ranges := [] }
            return true
        else
          modify fun e => { e with
            source := some source, line := if w.apart then 0 else e.line
            ranges := if w.apart then [] else e.ranges }
          return true

/-- The next line, from the next file if need be. -/
def nextLine? (w : Wish) : (fuel : Nat) → Editing (Option (Octets × Bool))
  | 0 => throw .exhausted
  | fuel + 1 => do
    match (← get).source with
    | none =>
      if ← openNext w ((← get).files.length + 1) then nextLine? w fuel else return none
    | some source =>
      match ← (source.next w.separator : Run _) with
      | .error e => stopWith ("read error on ".toList ++ (← get).file) e
      | .ok (some line, source) =>
        modify fun e => { e with source := some source }
        return some line
      | .ok (none, _) =>
        putBack w
        modify fun e => { e with source := none }
        nextLine? w fuel

/-- Take the next line, behind what waits to be written. -/
def advance (w : Wish) (take : Octets → Octets → Octets) : Editing Bool := do
  writeWaiting w
  match ← nextLine? w ((← get).files.length + 4) with
  | none => return false
  | some (cs, ended) =>
    modify fun e => { e with
      space := take e.space cs, ended, line := e.line + 1 }
    return true

def isLast (w : Wish) : Editing Bool := do
  let e ← get
  match e.source with
  | none => return e.files.isEmpty
  | some source =>
    let (atEnd, source) ← (source.isAtEnd : Run _)
    modify fun e => { e with source := some source }
    if !atEnd then return false
    else if w.apart || w.inPlace.isSome then return true
    else
      -- What comes next counts only if something can be read from it.
      let rec more : (fuel : Nat) → Editing Bool
        | 0 => return true
        | fuel + 1 => do
          if (← get).files.isEmpty then return true
          else if ← openNext w ((← get).files.length + 1) then
            match (← get).source with
            | none => return true
            | some source =>
              let (atEnd, source) ← (source.isAtEnd : Run _)
              modify fun e => { e with source := some source }
              if atEnd then more fuel else return false
          else return true
      more (e.files.length + 1)

/-! ## Expressions -/

/-- The expression to use: that of the command, or the one that was used last. -/
def expressionOf (w : Wish) (r : Option Regex) : Editing Regex := do
  match r.or (← get).last with
  | some r =>
    modify fun e => { e with last := some r }
    return r
  | none => (refuse 1 (w.nowhere ++ "no previous regular expression".toList) : Run Regex)

def isAt (w : Wish) (a : Address) : Editing Bool := do
  match a with
  | .line n => return (← get).line = n
  | .last => isLast w
  | .every first step =>
    let line := (← get).line
    return first ≤ line && (line - first) % step = 0
  | .found r =>
    let r ← expressionOf w r
    return (Regex.subject r (← get).space).has

/-- Note how far the range of a command has come. -/
def setRange (n : Nat) (r : RangeState) : Editing Unit :=
  modify fun e => { e with ranges := (n, r) :: e.ranges.filter (·.1 != n) }

def isMeant (w : Wish) (n : Nat) (c : Command) : Editing Bool := do
  let found ← match c.place with
    | .everywhere => pure true
    | .at a => isAt w a
    | .range start finish => do
      let fromTop : Bool := match start with
        | .line 0 => true
        | _ => false
      let line := (← get).line
      match ((← get).ranges.lookup n).getD (if fromTop then .open else .closed) with
      | .closed =>
        if !(← isAt w start) then pure false
        else
          match finish with
          | .address (.line last) => if line < last then setRange n (.upTo last)
          | .further more => if 0 < more then setRange n (.upTo (line + more))
          | .multiple k => if k != 0 && line % k != 0 then setRange n (.upTo ((line / k + 1) * k))
          | .address .last => if !(← isLast w) then setRange n .open
          | .address _ => setRange n .open
          pure true
      | .upTo last =>
        if last ≤ line then setRange n .closed
        if line ≤ last then pure true else isAt w start
      | .open =>
        match finish with
        | .address a => if ← isAt w a then setRange n .closed
        | _ => pure ()
        pure true
  return found != c.negated

/-! ## Substitution -/

def Casing.apply (c : Casing) (cs : Octets) : Octets :=
  match c, cs with
  | .upper, cs => cs.map Char.toUpper
  | .lower, cs => cs.map Char.toLower
  | .upperNext, c :: rest => c.toUpper :: rest
  | .lowerNext, c :: rest => c.toLower :: rest
  | _, cs => cs

/-- What stands in place of a match. `whole` is the change of case that holds on,
`once` the one for the next character. -/
def filled (text : Octets) (f : Regex.Found) (whole once : Casing) : List Part → Octets
  | [] => []
  | .casing c :: rest =>
    if c = .upperNext || c = .lowerNext then filled text f whole c rest
    else filled text f c .plain rest
  | .text cs :: rest => put cs rest
  | .group n :: rest => put ((f.group? text n).getD []) rest
where
  /-- A text and what is behind it. -/
  put (cs : Octets) (rest : List Part) : Octets :=
    if cs.isEmpty then filled text f whole once rest
    else once.apply (whole.apply cs) ++ filled text f whole .plain rest

/-- A text with matches replaced; none if there is none to replace. -/
def substituted (s : Substitution) (r : Regex) (text : Octets) : Option Octets :=
  let subject := Regex.subject r text
  let found := if s.first = 1 && !s.all then (subject.find? 0).toList else subject.all
  let found := found.drop (s.first - 1)
  let found := if s.all then found else found.take 1
  if found.isEmpty then none
  else
    let (parts, place) := found.foldl (fun (parts, place) f =>
      (filled text f .plain .plain s.parts :: ((text.take f.start).drop place) :: parts, f.finish))
      (([] : List Octets), 0)
    some ((text.drop place :: parts).reverse.flatten)

/-! ## Commands -/

def firstLine (w : Wish) (cs : Octets) : Octets := cs.takeWhile (· != w.separator)

/-- Run a text as a command; yields what it writes. -/
def outputOf (launch : Launcher) (command : Octets) : Run Octets := do
  let (_, cs) ← collecting
    (Launching.become launch Quote.text ["sh".toList, "-c".toList, command])
  return cs

/-- A line with signs for what cannot be seen, in rows of some width. -/
def shown (width : Nat) (cs : Octets) : Octets :=
  let sign (c : Char) : Octets :=
    if c = '\\' then "\\\\".toList
    else if 32 ≤ c.toNat && c.toNat < 127 then [c]
    else
      match [('\x07', 'a'), ('\x08', 'b'), ('\x0c', 'f'), ('\n', 'n'), ('\r', 'r'), ('\t', 't'),
          ('\x0b', 'v')].lookup c with
      | some letter => ['\\', letter]
      | none => '\\' :: Octets.padLeft 3 '0' (Nat.toDigits 8 c.toNat)
  let (rows, row) := cs.foldl (fun (rows, row) c =>
    let s := sign c
    if 0 < width && width ≤ row.length + s.length then
      ((row.reverse ++ "\\\n".toList) :: rows, s.reverse)
    else (rows, s.reverse ++ row)) (([] : List Octets), ([] : Octets))
  (rows.reverse.flatten) ++ row.reverse ++ "$\n".toList

/-- How the commands for a line end. -/
inductive CycleEnd where
  /-- The line is written if that was not forbidden. -/
  | finished
  | dropped
  /-- The commands begin again with what is left of the line. -/
  | again
  | quit (status : Nat)
  | quitSilently (status : Nat)

/-- The descriptor for a file that lines are written to. -/
def sinkOf (file : Octets) : Editing Nat := do
  let e ← get
  if file = "/dev/stdout".toList then return e.output
  else if file = "/dev/stderr".toList then return 2
  else return (e.sinks.lookup file).getD e.output

/-- The next line of a file, with its ending; the file is opened the first time. -/
def lineFrom (w : Wish) (file : Octets) : Editing (Option Octets) := do
  let name := if file = "/dev/stdin".toList then ['-'] else file
  let source ← match (← get).sources.lookup file with
    | some source => pure (some source)
    | none => do
      match ← (Source.ofFile name : Run _) with
      | .ok source => pure (some source)
      | .error _ => pure none
  match source with
  | none => return none
  | some source =>
    match ← (source.next w.separator : Run _) with
    | .ok (line, source) =>
      modify fun e => { e with
        sources := (file, source) :: e.sources.filter (·.1 != file) }
      return line.map fun (cs, ended) => if ended then cs ++ [w.separator] else cs
    | .error _ => return none

/-- Let something wait until the line is written. -/
def await (item : Waiting) : Editing Unit :=
  modify fun e => { e with waiting := e.waiting ++ [item] }

def rewriteSpace (change : Octets → Octets) : Editing Unit :=
  modify fun e => { e with space := change e.space }

def substitute (launch : Launcher) (w : Wish) (s : Substitution) : Editing Unit := do
  let r ← expressionOf w s.pattern
  match substituted s r (← get).space with
  | none => return
  | some cs =>
    modify fun e => { e with space := cs, changed := true }
    if s.runs then
      let cs ← (outputOf launch cs : Run _)
      rewriteSpace fun _ => if cs.getLast? == some w.separator then cs.dropLast else cs
    if s.prints then writeLine w (← get).output (← get).space
    if let some file := s.file then writeLine w (← sinkOf file) (← get).space

def runFrom (launch : Launcher) (w : Wish) (script : Array Command) (labels : List (Octets × Nat)) :
    (fuel : Nat) → (n : Nat) → Editing CycleEnd
  | 0, _ => throw .exhausted
  | fuel + 1, n => do
    match script[n]? with
    | none => return .finished
    | some c =>
      (stepOn : Run Unit)
      if !(← isMeant w n c) then runFrom launch w script labels fuel (n + 1)
      else
        let goOn : Editing CycleEnd := runFrom launch w script labels fuel (n + 1)
        let jump (name : Octets) : Editing CycleEnd :=
          if name.isEmpty then return .finished
          else runFrom launch w script labels fuel ((labels.lookup name).getD script.size)
        let out : Editing Nat := return (← get).output
        match c.action with
        | .skip target => runFrom launch w script labels fuel target
        | .label _ | .nothing => goOn
        | .jump name => jump name
        | .jumpIfChanged name => do
          let changed := (← get).changed
          modify fun e => { e with changed := false }
          if changed then jump name else goOn
        | .jumpIfUnchanged name => do
          let changed := (← get).changed
          modify fun e => { e with changed := false }
          if changed then goOn else jump name
        | .append text => do await (.text text); goOn
        | .insert text => do write w (← out) text; goOn
        | .change text => do
          let ranges := (← get).ranges
          let within : Bool := match c.place, ranges.lookup n with
            | .range _ _, some (.upTo _) | .range _ _, some .open => true
            | _, _ => false
          if !within || c.negated then
            write w (← out) text
          return .dropped
        | .delete => return .dropped
        | .deleteLine => do
          let space := (← get).space
          if space.contains w.separator then
            rewriteSpace fun _ => space.drop ((firstLine w space).length + 1)
            return .again
          else return .dropped
        | .run command => do
          if command.isEmpty then
            let cs ← (outputOf launch (← get).space : Run _)
            rewriteSpace fun _ => if cs.getLast? == some w.separator then cs.dropLast else cs
          else write w (← out) (← (outputOf launch command : Run _))
          goOn
        | .name => do write w (← out) ((← get).file ++ ['\n']); goOn
        | .recall => do modify fun e => { e with space := e.hold }; goOn
        | .recallMore => do
          modify fun e => { e with space := e.space ++ w.separator :: e.hold }
          goOn
        | .keep => do modify fun e => { e with hold := e.space }; goOn
        | .keepMore => do
          modify fun e => { e with hold := e.hold ++ w.separator :: e.space }
          goOn
        | .exchange => do modify fun e => { e with space := e.hold, hold := e.space }; goOn
        | .show width => do write w (← out) (shown (width.getD w.width) (← get).space); goOn
        | .next => do
          if ← isLast w then return .finished
          if !w.silent then writeLine w (← out) (← get).space
          if ← advance w (fun _ line => line) then goOn else return .dropped
        | .nextMore => do
          if ← isLast w then return .finished
          if ← advance w (fun space line => space ++ w.separator :: line) then goOn
          else return .finished
        | .print => do writeLine w (← out) (← get).space; goOn
        | .printLine => do write w (← out) (firstLine w (← get).space ++ [w.separator]); goOn
        | .quit status => return .quit status
        | .quitSilently status => return .quitSilently status
        | .insertFile file => do await (.file file); goOn
        | .insertLine file => do
          if let some line ← lineFrom w file then await (.text line)
          goOn
        | .write file => do writeLine w (← sinkOf file) (← get).space; goOn
        | .writeLine file => do
          write w (← sinkOf file) (firstLine w (← get).space ++ [w.separator])
          goOn
        | .substitute s => do substitute launch w s; goOn
        | .translate pairs => do
          rewriteSpace fun cs => cs.map fun c => (pairs.lookup c).getD c
          goOn
        | .number => do write w (← out) (Octets.ofNat (← get).line ++ ['\n']); goOn
        | .clear => do rewriteSpace fun _ => []; goOn

/-- Leave what was not read to others, and yield a status. -/
def finish (w : Wish) (status : Nat) : Editing Nat := do
  putBack w
  let e ← get
  match e.source with
  | some source => (source.leave : Run Unit)
  | none => pure ()
  return if status = 0 then e.status else status

def cycles (launch : Launcher) (w : Wish) (script : Array Command) (labels : List (Octets × Nat)) :
    (fuel : Nat) → (again : Bool) → Editing Nat
  | 0, _ => throw .exhausted
  | fuel + 1, again => do
    if !again then
      modify fun e => { e with changed := false }
      if !(← advance w fun _ line => line) then return ← finish w 0
    let writeSpace : Editing Unit := do
      let e ← get
      if !w.silent then writeLine w e.output e.space
    match ← runFrom launch w script labels (Nat.pow 2 30) 0 with
    | .finished =>
      writeSpace
      cycles launch w script labels fuel false
    | .dropped => cycles launch w script labels fuel false
    | .again => cycles launch w script labels fuel true
    | .quit status =>
      writeSpace
      writeWaiting w
      finish w status
    | .quitSilently status => finish w status

/-! ## The program -/

def flags : List Flag := [
  .plain 'n' "quiet", .long "silent" .nothing, .long "debug" .nothing, .valued 'e' "expression",
  .valued 'f' "file", .plain 'E' "regexp-extended", .plain 'r' "regexp-extended",
  ⟨some 'i', "in-place", .attached⟩, .valued 'l' "line-length", .long "posix" .nothing,
  .plain 's' "separate", .plain 'u' "unbuffered", .plain 'z' "null-data",
  .long "sandbox" .nothing, .long "follow-symlinks" .nothing, .plain 'b' "binary"]

/-- Complain, with a hint at how the program is used. -/
def misuse {α : Type} (text : Octets) : Run α := do
  if !text.isEmpty then faultWith text
  complain "Usage: sed [OPTION]... \x7bscript-only-if-no-other-script\x7d [input-file]..."
  throw (.exit 1)

def sinksOf (script : Array Command) : List Octets :=
  (script.toList.filterMap fun c => match c.action with
    | .write file | .writeLine file => some file
    | .substitute s => s.file
    | _ => none).filter fun file => file != "/dev/stdout".toList && file != "/dev/stderr".toList

def sed (launch : Launcher) (args : List Octets) : Run Nat := do
  let g ← match Given.read flags true (Given.effort args) args with
    | .ok g => pure g
    | .error e => misuse e.text
  let pieces ← g.options.filterMapM fun (word, value) => do
    if word == "expression" then return some (Piece.mk none value)
    else if word == "file" then
      match ← contentOf value with
      | .ok cs => return some (Piece.mk (some value) (bare cs))
      | .error e => stopWith ("couldn't open file ".toList ++ value) e
    else return none
  let (pieces, files) ← match pieces, g.operands with
    | [], [] => misuse []
    | [], script :: files => pure ([Piece.mk none script], files)
    | pieces, files => pure (pieces, files)
  match read (g.has "regexp-extended") pieces with
  | .error (text, status) => refuse status text
  | .ok script =>
    if let some name := (missingLabels script.commands).head? then
      refuse 4 ("can't find label for jump to \x60".toList ++ name ++ ['\''])
    let sinks ← (sinksOf script.commands).foldlM (fun sinks file => do
      if (sinks.lookup file).isSome then return sinks
      match ← Source.sinkFor file true with
      | .ok sink => return sinks ++ [(file, sink)]
      | .error e => stopWith ("couldn't open file ".toList ++ file) e)
      ([] : List (Octets × Nat))
    let w : Wish := {
      silent := g.has "quiet" || g.has "silent" || script.silent
      apart := g.has "separate", inPlace := g.last? "in-place"
      separator := if g.has "null-data" then '\x00' else '\n'
      width := ((g.last? "line-length").bind Octets.nat?).getD 70
      nowhere := "-e expression #".toList ++
        Octets.ofNat (max 1 (pieces.filter (·.file.isNone)).length) ++ ", char 0: ".toList }
    let editor : Editor := { files := if files.isEmpty then [['-']] else files, sinks }
    let (status, _) ← (cycles launch w script.commands (labels script.commands) (Nat.pow 2 30) false).run
      editor
    match (← get).unwritten with
    | some e => stopWith "couldn't flush stdout".toList e
    | none => return status

end BoardRig.Toolbox.Edit
