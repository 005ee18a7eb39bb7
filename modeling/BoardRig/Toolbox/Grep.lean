/-
Looking for lines that match.

A line is chosen if one of some expressions matches in it, or if none does and
that was asked for. Lines around a chosen one can be shown as well.
-/
import BoardRig.Regex.Matching
import BoardRig.Regex.Reader
import BoardRig.Toolbox.Options

namespace BoardRig.Toolbox.Grep

open Shell State

/-- What a search is asked for. -/
structure Wish where
  patterns : List Regex
  inverted : Bool
  words : Bool
  lines : Bool
  counts : Bool
  /-- Only the names of files in which something is chosen. -/
  names : Bool
  /-- Only the names of the others. -/
  namesWithout : Bool
  numbers : Bool
  offsets : Bool
  onlyMatches : Bool
  quiet : Bool
  silent : Bool
  named : Bool
  text : Bool
  limit : Option Nat
  before : Nat
  after : Nat
  /-- Whether what is not chosen is shown around it. -/
  hasContext : Bool

/-! ## Matches -/

/-- Whether a place is not inside of a word. -/
def isEdge (text : Array Char) (i : Nat) (before : Bool) : Bool :=
  let c := if before then (if i = 0 then none else text[i - 1]?) else text[i]?
  !c.any Edge.isWordCharacter

/-- The longest match from a place on that is as wide as asked for. -/
def matchAt (w : Wish) (text : Array Char) (s : Regex.Subject) (i : Nat) : Option (Nat × Nat) :=
  let fits (j : Nat) : Bool :=
    (!w.words || (isEdge text i true && isEdge text j false)) &&
      (!w.lines || (i = 0 && j = text.size))
  if w.words || w.lines then
    if s.expression.remembers then
      (s.findAt? i).bind fun f => if fits f.finish then some (i, f.finish) else none
    else
      let set := s.prepared.ends s.length (1 <<< i)
      (((List.range (text.size + 1)).reverse.find? fun j =>
        i ≤ j && set.testBit j && fits j)).map fun j => (i, j)
  else (s.findAt? i).map fun f => (i, f.finish)

/-- The first match from a place on of one of several expressions, the longest
of those that begin there. -/
def firstMatch (w : Wish) (text : Array Char) (subjects : List Regex.Subject) (first : Nat) :
    Option (Nat × Nat) :=
  let starts := (List.range (text.size + 1)).drop first
  starts.findSome? fun i =>
    subjects.foldl (fun best s =>
      match best, matchAt w text s i with
      | some (a, j), some (_, k) => some (a, max j k)
      | none, found => found
      | best, none => best) none

def hits (w : Wish) (line : Octets) : Bool :=
  let subjects := (w.patterns.map fun r => Regex.subject r line).filter Regex.Subject.has
  if subjects.isEmpty then false
  else if w.words || w.lines then (firstMatch w line.toArray subjects 0).isSome
  else true

def matchesIn (w : Wish) (line : Octets) : List (Nat × Nat) :=
  let text := line.toArray
  let subjects := w.patterns.map fun r => Regex.subject r line
  let rec go : (fuel : Nat) → (first : Nat) → List (Nat × Nat)
    | 0, _ => []
    | fuel + 1, first =>
      match firstMatch w text subjects first with
      | none => []
      | some (i, j) => if i = j then go fuel (i + 1) else (i, j) :: go fuel j
  go (line.length + 1) 0

/-! ## Files -/

/-- What was seen of a file so far. -/
structure Progress where
  number : Nat := 0
  offset : Nat := 0
  chosen : Nat := 0
  /-- The lines that may be shown in front of a chosen one, the latest first. -/
  waiting : List (Nat × Nat × Octets) := []
  /-- How many lines are still shown behind a chosen one. -/
  following : Nat := 0
  /-- The last line that was shown. -/
  shown : Nat := 0
  binary : Bool := false

def shownLine (w : Wish) (name : Octets) (sign : Char) (number offset : Nat) (line : Octets) :
    Octets :=
  (if w.named then name ++ [sign] else []) ++
    (if w.numbers then Octets.ofNat number ++ [sign] else []) ++
    (if w.offsets then Octets.ofNat offset ++ [sign] else []) ++ line ++ ['\n']

/-- Look at a line; tells whether to go on. -/
def look (w : Wish) (name : Octets) (state : Progress) (anything : Bool) (line : Octets) :
    Run (Progress × Bool) := do
  let text := bare line
  let number := state.number + 1
  let next := { state with number, offset := state.offset + line.length }
  let isBinary := state.binary || (!w.text && line.contains '\x00')
  let next := { next with binary := isBinary }
  let showsLines := !(w.quiet || w.counts || w.names || w.namesWithout)
  if hits w text != w.inverted then
    let chosen := state.chosen + 1
    let next := { next with chosen }
    let more := !w.quiet && !w.names && !w.namesWithout && w.limit.all (chosen < ·)
    if !showsLines then return (next, more)
    else if isBinary then
      faultWith (name ++ ": binary file matches".toList)
      return (next, false)
    else
      let gap := w.hasContext && (0 < state.shown || anything) &&
        state.shown + 1 < number - state.waiting.length
      if gap && !w.onlyMatches then put "--\n".toList
      if !w.onlyMatches then
        for (n, offset, line) in state.waiting.reverse do
          put (shownLine w name '-' n offset line)
        put (shownLine w name ':' number state.offset text)
      else if !w.inverted then
        for (i, j) in matchesIn w text do
          put (shownLine w name ':' number (state.offset + i) ((text.take j).drop i))
      return ({ next with waiting := [], following := w.after, shown := number }, more)
  else if !showsLines then return (next, true)
  else if 0 < state.following && !w.onlyMatches && !isBinary then
    put (shownLine w name '-' number state.offset text)
    return ({ next with following := state.following - 1, shown := number }, true)
  else
    return ({ next with
      waiting := ((number, state.offset, text) :: state.waiting).take w.before }, true)

/-- Look at the lines behind a descriptor. -/
def scan (w : Wish) (name : Octets) (anything : Bool) (descriptor : Nat) : (fuel : Nat) →
    Progress → Run (Except IoError Progress)
  | 0, _ => throw .exhausted
  | fuel + 1, state => do
    match ← readLine descriptor with
    | .error e => return .error e
    | .ok [] => return .ok state
    | .ok line =>
      stepOn
      let (state, more) ← look w name state anything line
      if more then scan w name anything descriptor fuel state
      else
        -- The lines behind the last one that counts may still be shown.
        trailing w name descriptor state.following state
        return .ok state
where
  /-- Show some lines more. -/
  trailing (w : Wish) (name : Octets) (descriptor : Nat) : (count : Nat) → Progress → Run Unit
    | 0, _ => return
    | count + 1, state => do
      match ← readLine descriptor with
      | .ok (c :: line) =>
        put (shownLine w name '-' (state.number + 1) state.offset (bare (c :: line)))
        trailing w name descriptor count
          { state with number := state.number + 1, offset := state.offset + line.length + 1 }
      | _ => return

/-- How often something was chosen in what was searched, and whether
something could not be read. -/
structure Outcome where
  chosen : Bool := false
  failed : Bool := false
  /-- Whether lines were shown. -/
  anything : Bool := false

def searchFile (w : Wish) (label : Octets) (file : Octets) (o : Outcome) : Run Outcome := do
  let name := if file = ['-'] then label else file
  let start : Progress := {}
  let r ← if w.limit == some 0 then pure (.ok (.ok start))
    else reading file fun descriptor => scan w name o.anything descriptor (Nat.pow 2 30) start
  match r with
  | .error e | .ok (.error e) =>
    if !w.silent then faultAt name e
    return { o with failed := true }
  | .ok (.ok state) =>
    let some' := 0 < state.chosen
    if !w.quiet then
      if w.counts then
        putLine ((if w.named then name ++ [':'] else []) ++ Octets.ofNat state.chosen)
      if w.names && some' then putLine name
      if w.namesWithout && !some' then putLine name
    return { o with
      chosen := o.chosen || (if w.namesWithout then !some' else some')
      anything := o.anything || 0 < state.shown }

/-- What a search in directories leaves out. -/
structure Filter where
  included : List Octets
  excluded : List Octets
  excludedDirectories : List Octets

def fitsOne (patterns : List Octets) (name : Octets) : Bool :=
  patterns.any fun pattern => Pattern.fits (Pattern.glyphs false pattern) name

def Filter.takes (f : Filter) (name : Octets) : Bool :=
  (f.included.isEmpty || fitsOne f.included name) && !fitsOne f.excluded name

def searchAll (w : Wish) (f : Filter) (label : Octets) : (fuel : Nat) → Octets →
    Outcome → Run Outcome
  | 0, _, o => return o
  | fuel + 1, path, o => do
    let p ← get
    if w.quiet && o.chosen then return o
    match p.files.find (p.pathOf path) with
    | .ok node =>
      match p.files.content? node with
      | some (.directory entries) =>
        entries.foldlM (fun o (name, inner) => do
          let name := Octets.ofString name
          let isLink := (p.files.content? inner) matches some (.link _)
          let isDirectory := (p.files.content? inner) matches some (.directory _)
          if isLink || (isDirectory && fitsOne f.excludedDirectories name) ||
              (!isDirectory && !f.takes name) then return o
          let full := if path.isEmpty then name
            else if path.getLast? == some '/' then path ++ name else path ++ '/' :: name
          searchAll w f label fuel full o) o
      | _ => searchFile w label path o
    | .error _ =>
      if path.isEmpty then
        -- Without an operand the working directory is searched, whose name is left out.
        match p.files.find p.directory with
        | .ok node =>
          (p.files.entries node).foldlM (fun o (name, inner) => do
            let name := Octets.ofString name
            let isDirectory := (p.files.content? inner) matches some (.directory _)
            if (isDirectory && fitsOne f.excludedDirectories name) ||
                (!isDirectory && !f.takes name) then return o
            searchAll w f label fuel name o) o
        | .error _ => return o
      else searchFile w label path o

/-! ## The program -/

/-- Complain, with a hint at how the program is used. -/
def misuse {α : Type} (text : Octets) : Run α := do
  if !text.isEmpty then faultWith text
  complain "Usage: grep [OPTION]... PATTERNS [FILE]..."
  complain "Try 'grep --help' for more information."
  throw (.exit 2)

def flags : List Flag := [
  .plain 'E' "extended-regexp", .plain 'F' "fixed-strings", .plain 'G' "basic-regexp",
  .plain 'P' "perl-regexp", .plain 'i' "ignore-case", .plain 'y' "ignore-case",
  .plain 'v' "invert-match", .plain 'c' "count", .plain 'l' "files-with-matches",
  .plain 'L' "files-without-match", .plain 'n' "line-number", .plain 'o' "only-matching",
  .plain 'q' "quiet", .long "silent" .nothing, .plain 's' "no-messages",
  .plain 'w' "word-regexp", .plain 'x' "line-regexp", .plain 'r' "recursive",
  .plain 'R' "dereference-recursive", .plain 'h' "no-filename", .plain 'H' "with-filename",
  .valued 'e' "regexp", .valued 'f' "file", .valued 'm' "max-count",
  .valued 'A' "after-context", .valued 'B' "before-context", .valued 'C' "context",
  .long "include" .value, .long "exclude" .value, .long "exclude-dir" .value,
  .long "color" .attached, .long "colour" .attached, .plain 'a' "text",
  .plain 'b' "byte-offset", .long "label" .value, .plain 'z' "null-data", .plain 'Z' "null",
  .plain 'T' "initial-tab", .plain 'U' "binary", .long "line-buffered" .nothing,
  .plain 'I' "I", .valued 'd' "directories", .valued 'D' "devices",
  .long "no-ignore-case" .nothing]

/-- Look for lines; `usual` is how expressions are written unless options say
so. -/
def grepWith (usual : String) (args : List Octets) : Run Nat := do
  -- A number behind a hyphen asks for so many lines around.
  let args := args.map fun arg =>
    let digits := (arg.drop 1).takeWhile Char.isDigit
    if arg.head? == some '-' && !digits.isEmpty && digits.length + 1 = arg.length then
      "-C".toList ++ digits else arg
  let g ← match Given.read flags true (Given.effort args) args with
    | .ok g => pure g
    | .error e => misuse e.text
  let number (word : String) : Run (Option Nat) := do
    match g.last? word with
    | none => return none
    | some text =>
      match Octets.nat? text with
      | some n => return some n
      | none => refuse 2 (text ++ ": invalid context length argument".toList)
  let before ← number "before-context"
  let after ← number "after-context"
  let around ← number "context"
  let limit ← match g.last? "max-count" with
    | none => pure none
    | some ('-' :: _) => pure none
    | some text =>
      match Octets.nat? text with
      | some n => pure (some n)
      | none => refuse 2 "invalid max count".toList
  let listed ← (g.all "file").mapM fun file => do
    match ← contentOf file with
    | .ok cs => return Octets.bareLines cs
    | .error e =>
      faultAt file e
      throw (.exit 2)
  let given := g.has "regexp" || g.has "file"
  let (texts, files) ← match given, g.operands with
    | true, files => pure ((g.all "regexp").flatMap (Text.split '\n') ++ listed.flatten, files)
    | false, [] => misuse []
    | false, pattern :: files => pure (Text.split '\n' pattern, files)
  let kind := (g.lastOf? ["extended-regexp", "fixed-strings", "basic-regexp",
    "perl-regexp"]).getD usual
  let ignoreCase := g.lastOf? ["ignore-case", "no-ignore-case"] == some "ignore-case"
  let dialect : Regex.Dialect := {
    extended := kind != "basic-regexp", ignoreCase, looseGroups := true }
  let patterns ← texts.mapM fun text => do
    if kind == "fixed-strings" then return Regex.literal ignoreCase text
    else
      match Regex.read dialect text with
      | .ok parsed =>
        for sign in parsed.idle do
          faultWith ("warning: ".toList ++
            (if sign = '\x7b' then "\x7b...\x7d".toList else [sign]) ++
            " at start of expression".toList)
        return parsed.expression
      | .error e => refuse 2 e.text.toList
  let recursive := g.has "recursive" || g.has "dereference-recursive"
  let many := recursive || 1 < files.length
  let w : Wish := {
    patterns, inverted := g.has "invert-match", words := g.has "word-regexp"
    lines := g.has "line-regexp", counts := g.has "count"
    names := g.has "files-with-matches", namesWithout := g.has "files-without-match"
    numbers := g.has "line-number", offsets := g.has "byte-offset"
    onlyMatches := g.has "only-matching", quiet := g.has "quiet" || g.has "silent"
    silent := g.has "no-messages"
    named := match g.lastOf? ["with-filename", "no-filename"] with
      | some word => word == "with-filename"
      | none => many
    text := g.has "text" || g.has "binary", limit
    before := (before.or around).getD 0, after := (after.or around).getD 0
    hasContext := before.isSome || after.isSome || around.isSome }
  let f : Filter := ⟨g.all "include", g.all "exclude", g.all "exclude-dir"⟩
  let label := (g.last? "label").getD "(standard input)".toList
  let files := if files.isEmpty then [if recursive then [] else ['-']] else files
  let o ← files.foldlM (fun (o : Outcome) file => do
    if w.quiet && o.chosen then return o
    else if recursive && file != ['-'] then searchAll w f label 64 file o
    else if !recursive && file != ['-'] && !f.takes ((file.reverse.takeWhile (· != '/')).reverse)
    then return o
    else searchFile w label file o) {}
  if o.failed && !(w.quiet && o.chosen) then return 2
  return if o.chosen then 0 else 1

/-- Look for lines that match basic expressions. -/
def grep (_ : Launcher) (args : List Octets) : Run Nat := grepWith "basic-regexp" args

/-- Look for lines that match extended expressions. -/
def egrep (_ : Launcher) (args : List Octets) : Run Nat := grepWith "extended-regexp" args

/-- Look for lines that hold texts. -/
def fgrep (_ : Launcher) (args : List Octets) : Run Nat := grepWith "fixed-strings" args

end BoardRig.Toolbox.Grep
