/-
Programs about the order of lines: sorting them, and comparing those that
stand beside each other or in two files.

Lines are compared by keys. A key is a part of a line, and is compared as a
text, as a number or as the name of a month. Lines whose keys are all the same
are compared as a whole.
-/
import BoardRig.Decimal.Ratio
import BoardRig.Toolbox.Options

namespace BoardRig.Toolbox.Order

open Shell State

/-! ## Comparing -/

/-- How keys are compared. -/
structure Rule where
  numeric : Bool := false
  /-- Numbers with a unit behind them. -/
  sized : Bool := false
  /-- Numbers with a power of ten. -/
  general : Bool := false
  months : Bool := false
  versions : Bool := false
  reversed : Bool := false
  folded : Bool := false
  /-- Only letters, digits and blanks count. -/
  dictionary : Bool := false
  writable : Bool := false
  /-- Blanks in front do not count, at the first place of a key. -/
  blanks : Bool := false
deriving DecidableEq

def Rule.heed (r : Rule) : Char → Option Rule
  | 'n' => some { r with numeric := true }
  | 'h' => some { r with sized := true }
  | 'g' => some { r with general := true }
  | 'M' => some { r with months := true }
  | 'V' => some { r with versions := true }
  | 'r' => some { r with reversed := true }
  | 'f' => some { r with folded := true }
  | 'd' => some { r with dictionary := true }
  | 'i' => some { r with writable := true }
  | 'b' => some { r with blanks := true }
  | _ => none

/-- The number at the front of a key: its sign, the digits in front of the
point and behind it, and the text behind the number. -/
def leadingNumber (cs : Octets) : Bool × Octets × Octets × Octets :=
  let cs := cs.dropWhile isBlank
  let (negative, cs) := match cs with
    | '-' :: rest => (true, rest)
    | rest => (false, rest)
  let whole := cs.takeWhile Char.isDigit
  let rest := cs.drop whole.length
  let (fraction, rest) := match rest with
    | '.' :: rest =>
      let digits := rest.takeWhile Char.isDigit
      (digits, rest.drop digits.length)
    | rest => ([], rest)
  (negative, whole.dropWhile (· == '0'), Text.dropEndWhile (· == '0') fraction, rest)

/-- The order of two numbers that are not negative, by their digits. -/
def compareDigits (a b : Octets × Octets) : Ordering :=
  (compare a.1.length b.1.length).then ((compare a.1 b.1).then (compare a.2 b.2))

/-- The order of two numbers at the front of keys. -/
def compareNumbers (a b : Octets) : Ordering :=
  let (m, w, f, _) := leadingNumber a
  let (n, v, g, _) := leadingNumber b
  let m := m && !(w.isEmpty && f.isEmpty)
  let n := n && !(v.isEmpty && g.isEmpty)
  match m, n with
  | true, false => .lt
  | false, true => .gt
  | false, false => compareDigits (w, f) (v, g)
  | true, true => compareDigits (v, g) (w, f)

/-- The size that the letter behind a number stands for. -/
def unitRank (cs : Octets) : Int :=
  let (negative, whole, fraction, rest) := leadingNumber cs
  let rank : Int := match rest with
    | c :: _ => (("KMGTPEZYRQ".toList.idxOf? (if c = 'k' then 'K' else c)).map
        fun n => ((n + 1 : Nat) : Int)).getD 0
    | [] => 0
  if whole.isEmpty && fraction.isEmpty then 0 else if negative then -rank else rank

/-- The order of two numbers with units. -/
def compareSizes (a b : Octets) : Ordering :=
  let sign (cs : Octets) : Int :=
    let (negative, whole, fraction, _) := leadingNumber cs
    if whole.isEmpty && fraction.isEmpty then 0 else if negative then -1 else 1
  (compare (sign a) (sign b)).then ((compare (unitRank a) (unitRank b)).then (compareNumbers a b))

/-- The value of a number with a power of ten; nothing if there is none. -/
def generalValue (cs : Octets) : Option (Int × Nat) :=
  match Decimal.Number.read? .extended cs with
  | some (.finite negative num den, _) => some (if negative then -(num : Int) else num, den)
  | some (.infinite negative, _) => some (if negative then -Int.pow 10 5000 else Int.pow 10 5000, 1)
  | _ => none

/-- The order of two numbers with powers of ten; what is none comes first. -/
def compareGeneral (a b : Octets) : Ordering :=
  match generalValue a, generalValue b with
  | none, none => .eq
  | none, some _ => .lt
  | some _, none => .gt
  | some (m, d), some (n, e) => compare (m * e) (n * d)

/-- The number of the month that a key begins with. -/
def monthRank (cs : Octets) : Nat :=
  let name := ((cs.dropWhile isBlank).take 3).map Char.toUpper
  let names := ["JAN", "FEB", "MAR", "APR", "MAY", "JUN", "JUL", "AUG", "SEP", "OCT", "NOV", "DEC"]
  ((names.idxOf? (String.ofList name)).map (· + 1)).getD 0

/-- The place of a character in versions: a tilde comes first, then the end of
a text, then letters, then all else. -/
def versionRank (c : Option Char) : Int :=
  match c with
  | some c =>
    if c.isDigit then 0
    else if c.isAlpha then c.toNat
    else if c = '~' then -1
    else c.toNat + 256
  | none => 0

/-- The order of two versions, in which digits count as numbers. -/
def compareVersions : (fuel : Nat) → Octets → Octets → Ordering
  | 0, _, _ => .eq
  | fuel + 1, a, b =>
    let isText (cs : Octets) : Bool := cs.head?.any fun c => !c.isDigit
    if a.isEmpty && b.isEmpty then .eq
    else if isText a || isText b then
      match compare (versionRank a.head?) (versionRank b.head?) with
      | .eq => compareVersions fuel a.tail b.tail
      | order => order
    else
      let m := a.takeWhile Char.isDigit
      let n := b.takeWhile Char.isDigit
      match compareDigits (m.dropWhile (· == '0'), []) (n.dropWhile (· == '0'), []) with
      | .eq => compareVersions fuel (a.drop m.length) (b.drop n.length)
      | order => order

/-- Whether a text is a row of endings of file names, each a dot, a letter, and
letters and digits. -/
def isEndings : (expectsLetter : Bool) → Octets → Bool
  | expectsLetter, [] => !expectsLetter
  | true, c :: cs => (c.isAlpha || c = '~') && isEndings false cs
  | false, '.' :: cs => isEndings true cs
  | false, c :: cs => (c.isAlphanum || c = '~') && isEndings false cs

/-- The length of a file name without its endings; at least one character is
none of them. -/
def stemLength (cs : Octets) : Nat :=
  ((List.range cs.length).find? fun n =>
    let tail := cs.drop (n + 1)
    tail.head? == some '.' && isEndings false tail).elim cs.length (· + 1)

/-- The order of two file names in which digits count as numbers and endings
count last. -/
def compareFileNames (a b : Octets) : Ordering :=
  let effort := a.length + b.length + 1
  let rank (cs : Octets) : Nat :=
    if cs.isEmpty then 0 else if cs = ['.'] then 1 else if cs = ['.', '.'] then 2
    else if cs.head? == some '.' then 3 else 4
  (compare (rank a) (rank b)).then <|
    (compareVersions effort (a.take (stemLength a)) (b.take (stemLength b))).then
      (compareVersions effort a b)

def Rule.textOf (r : Rule) (cs : Octets) : Octets :=
  let kept := cs.filter fun c =>
    (!r.dictionary || c.isAlphanum || isBlank c) &&
      (!r.writable || (32 ≤ c.toNat && c.toNat < 127))
  if r.folded then kept.map Char.toUpper else kept

/-- The order of two keys, apart from a reversal. -/
def Rule.compareForward (r : Rule) (a b : Octets) : Ordering :=
  if r.numeric then compareNumbers a b
  else if r.sized then compareSizes a b
  else if r.general then compareGeneral a b
  else if r.months then compare (monthRank a) (monthRank b)
  else if r.versions then compareFileNames a b
  else compare (r.textOf a) (r.textOf b)

def Rule.compare (r : Rule) (a b : Octets) : Ordering :=
  let order := r.compareForward a b
  if r.reversed then order.swap else order

/-! ## Keys -/

/-- A place in a line: a field, and a character in it. -/
structure Spot where
  field : Nat
  character : Nat
  blanks : Bool

/-- A key: where it begins and ends, and how it is compared. -/
structure Key where
  first : Spot
  last : Option Spot
  rule : Rule
  /-- Whether the key has a rule of its own. -/
  own : Bool

/-- What is wrong with a key. -/
inductive KeyFault where
  | zeroField
  | zeroCharacter
  | badStart
  | badAfterDot
  | badEnd
  | stray

def KeyFault.text : KeyFault → String
  | zeroField => "field number is zero"
  | zeroCharacter => "character offset is zero"
  | badStart => "invalid number at field start"
  | badAfterDot => "invalid number after '.'"
  | badEnd => "invalid number after ','"
  | stray => "stray character in field spec"

/-- A spot at the front of a text, with the letters behind it. -/
def spot (fault : KeyFault) (default : Nat) (cs : Octets) :
    Except KeyFault (Nat × Nat × Octets × Octets) := do
  if !(cs.head?.any Char.isDigit) then throw fault
  let (field, rest) := Octets.leadingNat cs
  if field = 0 then throw .zeroField
  let (character, rest) ← match rest with
    | '.' :: more =>
      if !(more.head?.any Char.isDigit) then throw .badAfterDot
      else pure (Octets.leadingNat more)
    | more => pure (default, more)
  let letters := rest.takeWhile fun c => "bdfgiMhnRrV".toList.contains c
  return (field, character, letters, rest.drop letters.length)

def Key.read (cs : Octets) : Except KeyFault Key := do
  let (field, character, letters, rest) ← spot .badStart 1 cs
  if character = 0 then throw .zeroCharacter
  let ruleOf (rule : Rule) (letters : Octets) : Rule :=
    letters.foldl (fun r c => if c = 'b' then r else (r.heed c).getD r) rule
  let rule := ruleOf {} letters
  let first : Spot := ⟨field, character, letters.contains 'b'⟩
  match rest with
  | [] => return ⟨first, none, rule, !letters.isEmpty⟩
  | ',' :: more =>
    let (field, character, more, rest) ← spot .badEnd 0 more
    if !rest.isEmpty then throw .stray
    return ⟨first, some ⟨field, character, more.contains 'b'⟩, ruleOf rule more,
      !(letters.isEmpty && more.isEmpty)⟩
  | _ => throw .stray

/-- The lengths of the fields of a line, and of what separates each from the
next one. -/
def cells (separator : Option Char) : (fuel : Nat) → Octets → List (Nat × Nat)
  | 0, _ => []
  | fuel + 1, cs =>
    match separator with
    | some mark =>
      let field := cs.takeWhile (· != mark)
      if field.length = cs.length then [(field.length, 0)]
      else (field.length, 1) :: cells separator fuel (cs.drop (field.length + 1))
    | none =>
      let gap := cs.takeWhile isBlank
      let word := (cs.drop gap.length).takeWhile fun c => !isBlank c
      let size := gap.length + word.length
      if cs.length ≤ size then [(size, 0)]
      else (size, 0) :: cells separator fuel (cs.drop size)

def Spot.place (s : Spot) (separator : Option Char) (isEnd : Bool) (line : Octets) : Nat :=
  let fields := cells separator (line.length + 1) line
  let start (n : Nat) : Nat :=
    min line.length ((fields.take n).foldl (fun sum (size, gap) => sum + size + gap) 0)
  if isEnd && s.character = 0 then
    match fields[s.field - 1]? with
    | some (size, _) => min line.length (start (s.field - 1) + size)
    | none => line.length
  else
    let begin := start (s.field - 1)
    let begin := if s.blanks then begin + ((line.drop begin).takeWhile isBlank).length else begin
    min line.length (begin + if isEnd then s.character else s.character - 1)

def Key.part (k : Key) (separator : Option Char) (line : Octets) : Octets :=
  let first := k.first.place separator false line
  let last := match k.last with
    | some spot => spot.place separator true line
    | none => line.length
  (line.take last).drop first

/-! ## Sorting -/

/-- The order of two lines by their keys. -/
def compareKeys (keys : List Key) (separator : Option Char) (a b : Octets) : Ordering :=
  keys.foldl (fun order k =>
    order.then (k.rule.compare (k.part separator a) (k.part separator b))) .eq

/-- The lines without those that are the same as the one before. -/
def distinct (same : Octets → Octets → Bool) : List Octets → List Octets
  | a :: b :: rest => if same a b then distinct same (a :: rest) else a :: distinct same (b :: rest)
  | lines => lines
termination_by lines => lines.length

/-- The number of the first line that is not where it belongs, and the line. -/
def disorder? (follows : Octets → Octets → Bool) : (number : Nat) → List Octets →
    Option (Nat × Octets)
  | n, a :: b :: rest =>
    if follows a b then disorder? follows (n + 1) (b :: rest) else some (n + 1, b)
  | _, _ => none

def sort (_ : Launcher) (args : List Octets) : Run Nat := do
  let g ← givenWith [.plain 'n' "numeric-sort", .plain 'h' "human-numeric-sort",
    .plain 'g' "general-numeric-sort", .plain 'M' "month-sort", .plain 'V' "version-sort",
    .plain 'r' "reverse", .plain 'f' "ignore-case", .plain 'd' "dictionary-order",
    .plain 'i' "ignore-nonprinting", .plain 'b' "ignore-leading-blanks", .valued 'k' "key",
    .valued 't' "field-separator", .valued 'o' "output", .plain 's' "stable", .plain 'u' "unique",
    ⟨some 'c', "check", .nothing⟩, .plain 'C' "C", .plain 'm' "merge", .plain 'z' "zero-terminated",
    .plain 'R' "random-sort", .valued 'S' "buffer-size", .valued 'T' "temporary-directory",
    .long "parallel" .value] true 2 args
  let letters : List (String × Char) := [
    ("numeric-sort", 'n'), ("human-numeric-sort", 'h'), ("general-numeric-sort", 'g'),
    ("month-sort", 'M'), ("version-sort", 'V'), ("reverse", 'r'), ("ignore-case", 'f'),
    ("dictionary-order", 'd'), ("ignore-nonprinting", 'i'), ("ignore-leading-blanks", 'b')]
  let general : Rule := letters.foldl (fun r (word, letter) =>
    if g.has word then (r.heed letter).getD r else r) {}
  let separator ← match g.last? "field-separator" with
    | none => pure none
    | some [] => refuse 2 "empty tab".toList
    | some [c] => pure (some c)
    | some ['\\', '0'] => pure (some '\x00')
    | some text => refuse 2 ("multi-character tab ".toList ++ Quote.text text)
  let keys ← (g.all "key").mapM fun text => do
    match Key.read text with
    | .ok k =>
      let inherits := !k.own && !k.first.blanks && !(k.last.any (·.blanks))
      return if inherits then
          { k with
            rule := general
            first := { k.first with blanks := general.blanks }
            last := k.last.map fun s => { s with blanks := general.blanks } }
        else k
    | .error e =>
      let shown := match e with
        | .zeroField | .zeroCharacter | .stray =>
          e.text ++ ": invalid field specification " ++ String.ofList (Quote.text text)
        | e => e.text ++ ": invalid count at start of " ++ String.ofList (Quote.text
            (text.dropWhile Char.isDigit))
      refuse 2 shown.toList
  let wholeLine : Spot := ⟨1, 1, general.blanks⟩
  let keys := if !keys.isEmpty then keys
    else if general == {} || general == { reversed := true } then []
    else [⟨wholeLine, none, general, true⟩]
  let unique := g.has "unique"
  let byKeys := compareKeys keys separator
  let lastResort (a b : Octets) : Ordering :=
    if general.reversed then compare b a else compare a b
  let order (a b : Octets) : Ordering :=
    if keys.isEmpty then lastResort a b
    else if unique || g.has "stable" then byKeys a b
    else (byKeys a b).then (lastResort a b)
  if g.has "check" || g.has "C" then
    let file := g.operands.head?.getD ['-']
    match g.operands with
    | _ :: extra :: _ =>
      refuse 2 ("extra operand ".toList ++ Quote.text extra ++ " not allowed with -".toList ++
        [if g.has "C" then 'C' else 'c'])
    | _ =>
      match ← contentOf file with
      | .error e =>
        faultAt ("cannot read: ".toList ++ Quote.ifNeeded file) e
        return 2
      | .ok cs =>
        let follows (a b : Octets) : Bool := if unique then order a b == .lt else order a b != .gt
        match disorder? follows 1 (Octets.bareLines cs) with
        | none => return 0
        | some (n, line) =>
          if !g.has "C" then
            faultWith (file ++ ':' :: Octets.ofNat n ++ ": disorder: ".toList ++ line)
          return 1
  else
    let files := if g.operands.isEmpty then [['-']] else g.operands
    let contents ← files.mapM fun file => do
      match ← contentOf file with
      | .ok cs => return cs
      | .error e =>
        faultAt ((if e = .isADirectory then "read failed: " else "cannot read: ").toList ++
          Quote.ifNeeded file) e
        throw (.exit 2)
    let lines := contents.flatMap Octets.bareLines
    let sorted := lines.mergeSort fun a b => order a b != .gt
    let same (a b : Octets) : Bool := order a b == .eq
    let result := Octets.ofLines (if unique then distinct same sorted else sorted)
    match g.last? "output" with
    | none =>
      emit result
      return 0
    | some file =>
      let p ← get
      match ← openSink (p.pathOf file) true false false with
      | .ok opened =>
        modify (withDescriptor 1 opened)
        emit result
        return 0
      | .error e =>
        faultAt ("open failed: ".toList ++ Quote.ifNeeded file) e
        return 2

/-! ## Repeated lines -/

/-- Lines with how often each stands in a row. -/
def runs (same : Octets → Octets → Bool) : List Octets → List (Octets × Nat × List Octets)
  | [] => []
  | line :: rest =>
    match runs same rest with
    | (next, count, all) :: more =>
      if same line next then (line, count + 1, line :: all) :: more
      else (line, 1, [line]) :: (next, count, all) :: more
    | [] => [(line, 1, [line])]

/-- Leave out lines that are the same as the one before. -/
def uniq (_ : Launcher) (args : List Octets) : Run Nat := do
  let g ← given [.plain 'c' "count", .plain 'd' "repeated", .plain 'D' "D", .plain 'u' "unique",
    .plain 'i' "ignore-case", .valued 'f' "skip-fields", .valued 's' "skip-chars",
    .valued 'w' "check-chars", .plain 'z' "zero-terminated"] args
  let number (word : String) (what : String) : Run (Option Nat) := do
    match g.last? word with
    | none => return none
    | some text =>
      match Octets.nat? text with
      | some n => return some n
      | none => refuse 1 (text ++ ": invalid number of ".toList ++ what.toList)
  let fields := (← number "skip-fields" "fields to skip").getD 0
  let characters := (← number "skip-chars" "bytes to skip").getD 0
  let limit ← number "check-chars" "bytes to compare"
  let rec withoutFields : Nat → Octets → Octets
    | 0, cs => cs
    | n + 1, cs => withoutFields n ((cs.dropWhile isBlank).dropWhile fun c => !isBlank c)
  let keyOf (line : Octets) : Octets :=
    let cs := (withoutFields fields line).drop characters
    let cs := (limit.map cs.take).getD cs
    if g.has "ignore-case" then cs.map Char.toUpper else cs
  let same (a b : Octets) : Bool := keyOf a == keyOf b
  let file := g.operands.head?.getD ['-']
  match g.operands with
  | _ :: _ :: extra :: _ => extraOperand 1 extra
  | _ =>
    match ← contentOf file with
    | .error e =>
      if e = .isADirectory then faultAt ("error reading ".toList ++ Quote.always file) e
      else faultAbout file e
      return 1
    | .ok cs =>
      if let some out := g.operands[1]? then
        if out != ['-'] then
          let p ← get
          match ← openSink (p.pathOf out) true false false with
          | .ok opened => modify (withDescriptor 1 opened)
          | .error e =>
            faultAbout out e
            throw (.exit 1)
      let found := runs same (Octets.bareLines cs)
      if g.has "D" then
        emitLines ((found.filter fun r => 1 < r.2.1).flatMap (·.2.2))
      else
        let kept := found.filter fun r =>
          (!g.has "repeated" || 1 < r.2.1) && (!g.has "unique" || r.2.1 = 1)
        emitLines (kept.map fun (line, count, _) =>
          if g.has "count" then
            Octets.padLeft 7 ' ' (Octets.ofNat count) ++ ' ' :: line
          else line)
      return 0

/-! ## Two files -/

/-- Where a line of two sorted files is: in the first, in the second, or in
both. -/
def merged : (fuel : Nat) → List Octets → List Octets → List (Nat × Octets)
  | 0, _, _ => []
  | _ + 1, [], bs => bs.map fun b => (2, b)
  | _ + 1, as, [] => as.map fun a => (1, a)
  | fuel + 1, a :: as, b :: bs =>
    match compare a b with
    | .lt => (1, a) :: merged fuel as (b :: bs)
    | .gt => (2, b) :: merged fuel (a :: as) bs
    | .eq => (3, a) :: merged fuel as bs

/-- Read the two files that a program compares. -/
def twoFiles (g : Given) (status : Nat) : Run (Octets × Octets) := do
  let content (file : Octets) : Run Octets := do
    match ← contentOf file with
    | .ok cs => return cs
    | .error e =>
      faultAbout file e
      throw (.exit status)
  match g.operands with
  | [] => missingOperand status
  | [a] => misused status ("missing operand after ".toList ++ Quote.text a)
  | [a, b] => do
    let first ← content a
    return (first, ← content b)
  | _ :: _ :: extra :: _ => extraOperand status extra

def isSorted : List Octets → Bool
  | a :: b :: rest => compare a b != .gt && isSorted (b :: rest)
  | _ => true

/-- Compare two sorted files line by line. -/
def comm (_ : Launcher) (args : List Octets) : Run Nat := do
  let g ← given [.plain '1' "1", .plain '2' "2", .plain '3' "3", .long "check-order" .nothing,
    .long "nocheck-order" .nothing, .long "output-delimiter" .value, .long "total" .nothing,
    .plain 'z' "zero-terminated"] args
  let (a, b) ← twoFiles g 1
  let (as, bs) := (Octets.bareLines a, Octets.bareLines b)
  let gap := (g.last? "output-delimiter").getD ['\t']
  let shown (n : Nat) (line : Octets) : Option Octets :=
    let before (m : Nat) : Octets := if g.has (Nat.repr m) then [] else gap
    if g.has (Nat.repr n) then none
    else some ((if 1 < n then before 1 else []) ++ (if 2 < n then before 2 else []) ++ line)
  let all := merged (as.length + bs.length + 1) as bs
  emitLines (all.filterMap fun (n, line) => shown n line)
  let unsorted := [(1, as), (2, bs)].filter fun (_, lines) => !isSorted lines
  if unsorted.isEmpty || g.has "nocheck-order" || all.all (·.1 = 3) then return 0
  for (n, _) in unsorted do
    fault ("file " ++ Nat.repr n ++ " is not in sorted order")
  fault "input is not in sorted order"
  return 1

/-- Write lines of two sorted files that have a field in common side by
side. -/
def join (_ : Launcher) (args : List Octets) : Run Nat := do
  let g ← given [.valued '1' "1", .valued '2' "2", .valued 'j' "j", .valued 't' "t",
    .valued 'a' "a", .valued 'v' "v", .valued 'o' "o", .valued 'e' "e", .plain 'i' "ignore-case",
    .long "header" .nothing, .long "check-order" .nothing, .long "nocheck-order" .nothing] args
  let (a, b) ← twoFiles g 1
  let field (word : String) : Nat :=
    (((g.last? word).or (g.last? "j")).bind Octets.nat?).getD 1
  let mark := (g.last? "t").bind (·.head?)
  let split (line : Octets) : List Octets := match mark with
    | some c => Text.split c line
    | none => Text.wordsFrom isBlank [] line
  let keyOf (n : Nat) (cells : List Octets) : Octets :=
    let key := (cells[n - 1]?).getD []
    if g.has "ignore-case" then key.map Char.toLower else key
  let missing := (g.last? "e").getD []
  let as := (Octets.bareLines a).map split
  let bs := (Octets.bareLines b).map split
  let (m, n) := (field "1", field "2")
  let others (k : Nat) (cells : List Octets) : List Octets := cells.eraseIdx (k - 1)
  let shown (key : Octets) (x y : Option (List Octets)) : Octets :=
    let cells := match g.last? "o" with
      | some spec =>
        (Text.wordsFrom (fun c => c == ',' || c == ' ') [] spec).map fun item =>
          match item with
          | ['0'] => key
          | '1' :: '.' :: k =>
            ((x.bind fun cells => cells[(Octets.leadingNat k).1 - 1]?).filter (!·.isEmpty)).getD missing
          | _ :: _ :: k =>
            ((y.bind fun cells => cells[(Octets.leadingNat k).1 - 1]?).filter (!·.isEmpty)).getD missing
          | _ => []
      | none => key :: ((x.map (others m)).getD []) ++ ((y.map (others n)).getD [])
    List.intercalate [mark.getD ' '] cells
  let alone (k : Nat) : Bool := (g.all "a" ++ g.all "v").contains (Octets.ofNat k)
  let keys := as.map fun x => (keyOf m x, x)
  let onlySecond (below : Octets → Bool) (above : Octets → Bool) : List Octets :=
    bs.filterMap fun y =>
      let key := keyOf n y
      if alone 2 && above key && below key && !keys.any (·.1 == key) then
        some (shown ((y[n - 1]?).getD []) none (some y))
      else none
  let (lines, last) := keys.foldl (fun (lines, before) (key, x) =>
    let shownKey := (x[m - 1]?).getD []
    let gap := if before == some key then []
      else onlySecond (fun k => decide (k < key)) fun k => before.all fun b => decide (b < k)
    let partners := bs.filter fun y => keyOf n y == key
    let here := if partners.isEmpty then
        if alone 1 then [shown shownKey (some x) none] else []
      else if g.has "v" then []
      else partners.map fun y => shown shownKey (some x) (some y)
    (lines ++ gap ++ here, some key)) (([] : List Octets), (none : Option Octets))
  let rest := onlySecond (fun _ => true) fun k => last.all fun b => decide (b < k)
  emitLines (lines ++ rest)
  return 0

end BoardRig.Toolbox.Order
