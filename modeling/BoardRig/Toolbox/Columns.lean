/-
Programs about the columns of lines: cutting fields out, putting lines side
by side, breaking long lines, and tabs.
-/
import BoardRig.Toolbox.Options

namespace BoardRig.Toolbox.Columns

open Shell State

/-! ## Ranges -/

/-- Some places in a row, from one up to another one or without end. -/
structure Span where
  first : Nat
  last : Option Nat

def inSpans (spans : List Span) (n : Nat) : Bool :=
  spans.any fun s => s.first ≤ n && s.last.all (n ≤ ·)

/-- What is wrong with a list of ranges. `noun` names what is counted. -/
inductive SpanFault where
  | invalid (text : Octets)
  | fromZero
  | noEnd
  | decreasing

/-- How a fault is shown where fields or characters are counted. -/
def SpanFault.text (fields : Bool) : SpanFault → Octets
  | invalid cs =>
    (if fields then "invalid field value " else "invalid byte/character position ").toList ++
      Quote.text cs
  | fromZero =>
    ((if fields then "fields" else "byte/character positions") ++ " are numbered from 1").toList
  | noEnd => "invalid range with no endpoint: -".toList
  | decreasing => "invalid decreasing range".toList

def span (cs : Octets) : Except SpanFault Span := do
  let number (part : Octets) : Except SpanFault Nat :=
    match Octets.nat? part with
    | some n => .ok n
    | none => .error (.invalid (part.dropWhile Char.isDigit))
  match Text.cutAt? '-' cs with
  | none =>
    if cs.isEmpty then throw .fromZero
    let n ← number cs
    if n = 0 then throw .fromZero
    return ⟨n, some n⟩
  | some ([], []) => throw .noEnd
  | some (a, b) =>
    let first ← if a.isEmpty then pure 1 else number a
    if first = 0 then throw .fromZero
    if b.isEmpty then return ⟨first, none⟩
    let last ← number b
    if last < first then throw .decreasing
    return ⟨first, some last⟩

def spans (cs : Octets) : Except SpanFault (List Span) :=
  (Text.wordsFrom (fun c => c == ',' || isBlank c) [] cs).mapM span

/-- The parts of a row that are in some ranges, those that touch together. -/
def runsWithin (wanted : Nat → Bool) (starts : Nat → Bool) : (place : Nat) → List Char →
    List Octets
  | _, [] => []
  | place, c :: rest =>
    let more := runsWithin wanted starts (place + 1) rest
    if !wanted place then more
    else
      match more with
      | run :: runs =>
        if wanted (place + 1) && !rest.isEmpty && !starts (place + 1) then (c :: run) :: runs
        else [c] :: run :: runs
      | [] => [[c]]

def cut (_ : Launcher) (args : List Octets) : Run Nat := do
  let g ← given [.valued 'b' "bytes", .valued 'c' "characters", .valued 'f' "fields",
    .valued 'd' "delimiter", .plain 'n' "n", .plain 's' "only-delimited",
    .long "output-delimiter" .value, .long "complement" .nothing, .plain 'z' "zero-terminated"] args
  let lists := g.options.filter fun o => ["bytes", "characters", "fields"].contains o.1
  match lists with
  | [] => misused 1 "you must specify a list of bytes, characters, or fields".toList
  | _ :: _ :: _ => misused 1 "only one list may be specified".toList
  | [(kind, text)] =>
    let fields := kind == "fields"
    let delimiter := (g.last? "delimiter").getD ['\t']
    if 1 < delimiter.length then misused 1 "the delimiter must be a single character".toList
    if !fields && g.has "delimiter" then
      misused 1 "an input delimiter may be specified only when operating on fields".toList
    if !fields && g.has "only-delimited" then
      misused 1 ("suppressing non-delimited lines makes sense\n\tonly when operating on " ++
        "fields").toList
    let found ← match spans text with
      | .ok found => pure found
      | .error e => misused 1 (e.text fields)
    let wanted (n : Nat) : Bool := inSpans found n != g.has "complement"
    let mark := delimiter.head?.getD '\x00'
    let output := g.last? "output-delimiter"
    let starts (n : Nat) : Bool := output.isSome && !g.has "complement" &&
      found.any fun s => s.first == n && !found.any fun t =>
        t.first < n && t.last.all (n ≤ ·)
    eachLineOf g.operands fun line => do
      let cs := bare line
      if fields then
        if cs.contains mark then
          let kept := (Text.split mark cs).zipIdx.filter fun (_, n) => wanted (n + 1)
          putLine (List.intercalate (output.getD [mark]) (kept.map (·.1)))
        else if !g.has "only-delimited" then putLine cs
      else
        putLine (List.intercalate (output.getD []) (runsWithin wanted starts 1 cs))

/-! ## Side by side -/

/-- Signs between columns, with their escapes written out; one may be
nothing. -/
def separators : Octets → List Octets
  | '\\' :: c :: rest =>
    (match c with
      | '0' => []
      | 'n' => ['\n']
      | 't' => ['\t']
      | 'b' => ['\x08']
      | 'f' => ['\x0c']
      | 'r' => ['\r']
      | 'v' => ['\x0b']
      | c => [c]) :: separators rest
  | c :: rest => [c] :: separators rest
  | [] => []

/-- Cells with signs between them, each sign in turn. -/
def joined (signs : List Octets) (cells : List Octets) : Octets :=
  (cells.zipIdx.map fun (cell, n) =>
    if n = 0 then cell
    else ((signs[(n - 1) % (max 1 signs.length)]?).getD []) ++ cell).flatten

/-- Rows of cells from columns; what stands for the input takes its lines in
turn. -/
def rows : (fuel : Nat) → (shared : List Octets) → List (Option (List Octets)) →
    List (List Octets)
  | 0, _, _ => []
  | fuel + 1, shared, columns =>
    let done := columns.all fun column => (column.getD shared).isEmpty
    if done then []
    else
      let (cells, shared, columns) := columns.foldl (fun (cells, shared, left) column =>
        match column with
        | some lines => (cells ++ [lines.head?.getD []], shared, left ++ [some lines.tail])
        | none => (cells ++ [shared.head?.getD []], shared.tail, left ++ [none]))
        (([], shared, []) : List Octets × List Octets × List (Option (List Octets)))
      cells :: rows fuel shared columns

/-- Put lines side by side, or all lines of a file on one line. -/
def paste (_ : Launcher) (args : List Octets) : Run Nat := do
  let g ← given [.valued 'd' "delimiters", .plain 's' "serial", .plain 'z' "zero-terminated"] args
  let signs := separators (((g.last? "delimiters").filter (!·.isEmpty)).getD ['\t'])
  let signs := if g.last? "delimiters" == some [] then [[]] else signs
  let files := if g.operands.isEmpty then [['-']] else g.operands
  if g.has "serial" then
    forEach files fun file => do
      match ← contentOf file with
      | .ok cs =>
        putLine (joined signs (Octets.bareLines cs))
        return 0
      | .error e =>
        faultAbout file e
        return 1
  else
    let mut shared : List Octets := []
    if files.contains ['-'] then
      match ← contentOf ['-'] with
      | .ok cs => shared := Octets.bareLines cs
      | .error e =>
        faultAbout ['-'] e
        throw (.exit 1)
    let mut columns : List (Option (List Octets)) := []
    for file in files do
      if file = ['-'] then columns := columns ++ [none]
      else
        match ← contentOf file with
        | .ok cs => columns := columns ++ [some (Octets.bareLines cs)]
        | .error e =>
          faultAbout file e
          throw (.exit 1)
    let count := columns.foldl (fun n column => n + (column.getD []).length) shared.length
    emitLines ((rows (count + 1) shared columns).map (joined signs))
    return 0

/-! ## Width -/

def columnBehind (octets : Bool) (column : Nat) (c : Char) : Nat :=
  if octets then column + 1
  else if c = '\t' then column + (8 - column % 8)
  else if c = '\x08' then column - 1
  else if c = '\r' then 0
  else column + 1

/-- A line broken where it is too wide; `here` holds in reverse what is not
written yet. -/
def folded (octets spaces : Bool) (width : Nat) : (fuel : Nat) → (here : Octets) →
    (column : Nat) → Octets → Octets
  | 0, here, _, cs => here.reverse ++ cs
  | _ + 1, here, _, [] => here.reverse
  | fuel + 1, here, column, c :: rest =>
    let next := columnBehind octets column c
    if next ≤ width || here.isEmpty then folded octets spaces width fuel (c :: here) next rest
    else
      let behind := here.takeWhile fun c => !isBlank c
      if spaces && behind.length < here.length then
        let before := here.drop behind.length
        before.reverse ++ '\n' :: folded octets spaces width fuel behind
          (behind.reverse.foldl (columnBehind octets) 0) (c :: rest)
      else here.reverse ++ '\n' :: folded octets spaces width fuel [] 0 (c :: rest)

/-- Break lines that are too wide. -/
def fold (_ : Launcher) (args : List Octets) : Run Nat := do
  let args := args.map fun arg =>
    if arg.head? == some '-' && (arg.drop 1).all Char.isDigit && 1 < arg.length then
      "-w".toList ++ arg.drop 1 else arg
  let g ← given [.plain 'b' "bytes", .plain 's' "spaces", .valued 'w' "width"] args
  let width ← match g.last? "width" with
    | none => pure 80
    | some text =>
      match Octets.nat? text with
      | some n =>
        if n = 0 then refuse 1 ("invalid number of columns: ".toList ++ Quote.text text) else pure n
      | none => refuse 1 ("invalid number of columns: ".toList ++ Quote.text text)
  eachLineOf g.operands fun line => do
    let cs := bare line
    emit (folded (g.has "bytes") (g.has "spaces") width (2 * cs.length + 2) [] 0 cs ++
      line.drop cs.length)

/-! ## Tabs -/

/-- The places where columns begin: listed ones, and a distance. -/
structure Stops where
  listed : List Nat
  every : Nat

def stops? (cs : Octets) : Option Stops := do
  let numbers ← (Text.wordsFrom (fun c => c == ',' || c == ' ') [] cs).mapM Octets.nat?
  match numbers with
  | [] => none
  | [0] => none
  | [n] => some ⟨[], n⟩
  | listed => some ⟨listed, 0⟩

def Stops.next (s : Stops) (column : Nat) : Nat :=
  if s.listed.isEmpty then column + (s.every - column % s.every)
  else (s.listed.find? (column < ·)).getD (column + 1)

def stopsIn (g : Given) : Run Stops := do
  match g.last? "tabs" with
  | none => return ⟨[], 8⟩
  | some text =>
    match stops? text with
    | some stops => return stops
    | none =>
      if text = ['0'] then refuse 1 "tab size cannot be 0".toList
      else refuse 1 ("tab size contains invalid character(s): ".toList ++ Quote.text text)

/-- A line with blanks in place of tabs. -/
def expandedLine (stops : Stops) (initial : Bool) : (column : Nat) → (active : Bool) → Octets →
    Octets
  | _, _, [] => []
  | column, active, c :: rest =>
    if c = '\t' && active then
      let next := stops.next column
      List.replicate (next - column) ' ' ++ expandedLine stops initial next active rest
    else
      let column := if c = '\x08' then column - 1 else column + 1
      c :: expandedLine stops initial column (active && (!initial || isBlank c)) rest

def expand (_ : Launcher) (args : List Octets) : Run Nat := do
  let g ← given [.plain 'i' "initial", .valued 't' "tabs"] args
  let stops ← stopsIn g
  eachLineOf g.operands fun line =>
    emit (expandedLine stops (g.has "initial") 0 true (bare line) ++ line.drop (bare line).length)

/-- The blanks between two columns, with tabs wherever they fit. -/
def blanks (stops : Stops) : (fuel : Nat) → (column target : Nat) → Octets
  | 0, _, _ => []
  | fuel + 1, column, target =>
    let next := stops.next column
    if next ≤ target && column < target then
      -- One blank right before a stop stays what it is.
      (if next = column + 1 && target = next then ' ' else '\t') :: blanks stops fuel next target
    else List.replicate (target - column) ' '

/-- A line with tabs in place of blanks; `since` is where the blanks at hand
begin. -/
def unexpandedLine (stops : Stops) (all : Bool) : (since column : Nat) → (active : Bool) →
    Octets → Octets
  | since, column, _, [] => blanks stops (column + 1) since column
  | since, column, active, c :: rest =>
    if active && c = ' ' then unexpandedLine stops all since (column + 1) active rest
    else if active && c = '\t' then unexpandedLine stops all since (stops.next column) active rest
    else
      blanks stops (column + 1) since column ++
        c :: unexpandedLine stops all (column + 1) (column + 1) (active && all) rest

def unexpand (_ : Launcher) (args : List Octets) : Run Nat := do
  let g ← given [.plain 'a' "all", .long "first-only" .nothing, .valued 't' "tabs"] args
  let stops ← stopsIn g
  let all := (g.has "all" || g.has "tabs") && !g.has "first-only"
  eachLineOf g.operands fun line =>
    emit (unexpandedLine stops all 0 0 true (bare line) ++ line.drop (bare line).length)

end BoardRig.Toolbox.Columns
