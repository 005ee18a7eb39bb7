/-
Programs that pass on what they read, or the beginning or the end of it, and
that count what is in it.
-/
import BoardRig.Toolbox.Options

namespace BoardRig.Toolbox.Reading

open Shell State

def sources (g : Given) : List Octets := if g.operands.isEmpty then [['-']] else g.operands

/-- The descriptor behind which a program writes what it makes. -/
def outputNode? (p : State) : Option (Nat × OpenFile) := do
  let (_, f) ← p.openFileOf? 1
  match f.target with
  | .node node => if (p.files.content? node) matches some (.file _) then some (node, f) else none
  | .pipe _ => none

/-! ## Everything -/

def passOn (descriptor : Nat) : (fuel : Nat) → Run (Option IoError)
  | 0 => throw .exhausted
  | fuel + 1 => do
    match ← readReady descriptor block with
    | .error e => return some e
    | .ok [] => return none
    | .ok cs =>
      stepOn
      put cs
      passOn descriptor fuel

/-- How lines are shown. -/
structure Display where
  numbers : Bool
  numbersOfFilled : Bool
  squeezed : Bool
  ends : Bool
  tabs : Bool
  controls : Bool

/-- A character with the signs for what cannot be seen. -/
def visible (d : Display) (c : Char) : Octets :=
  let n := c.toNat
  let low (n : Nat) : Octets :=
    if n < 32 then ['^', Char.ofNat (n + 64)] else if n = 127 then ['^', '?'] else [Char.ofNat n]
  if c = '\t' then if d.tabs then ['^', 'I'] else ['\t']
  else if !d.controls then [c]
  else if n < 128 then low n
  else 'M' :: '-' :: low (n - 128)

def Display.body (d : Display) (line : Octets) : Octets :=
  let ended := line.getLast? == some '\n'
  let cs := if ended then line.dropLast else line
  -- A carriage return right before the end of a line shows if the end does.
  let (cs, return') := if d.ends && !d.controls && ended && cs.getLast? == some '\r' then
      (cs.dropLast, "^M".toList) else (cs, [])
  cs.flatMap (visible d) ++ return' ++ (if d.ends && ended then ['$'] else []) ++
    (if ended then ['\n'] else [])

/-- Lines as they are shown, with their numbers; an empty line may follow only
one that is not. -/
def Display.lines (d : Display) : (number : Nat) → (afterEmpty : Bool) → List Octets → List Octets
  | _, _, [] => []
  | number, afterEmpty, line :: rest =>
    let isEmpty := line == ['\n']
    if d.squeezed && isEmpty && afterEmpty then lines d number true rest
    else
      let counts := if d.numbersOfFilled then !isEmpty else d.numbers
      if counts then
        (Octets.padLeft 6 ' ' (Octets.ofNat number) ++ '\t' :: d.body line) ::
          lines d (number + 1) isEmpty rest
      else d.body line :: lines d number isEmpty rest

def cat (_ : Launcher) (args : List Octets) : Run Nat := do
  let g ← given [.plain 'A' "show-all", .plain 'b' "number-nonblank", .plain 'e' "e",
    .plain 'E' "show-ends", .plain 'n' "number", .plain 's' "squeeze-blank", .plain 't' "t",
    .plain 'T' "show-tabs", .plain 'u' "u", .plain 'v' "show-nonprinting"] args
  let all := g.has "show-all"
  let d : Display := {
    numbers := g.has "number", numbersOfFilled := g.has "number-nonblank"
    squeezed := g.has "squeeze-blank"
    ends := all || g.has "e" || g.has "show-ends"
    tabs := all || g.has "t" || g.has "show-tabs"
    controls := all || g.has "e" || g.has "t" || g.has "show-nonprinting" }
  if d.numbers || d.numbersOfFilled || d.squeezed || d.ends || d.tabs || d.controls then
    let (cs, status) ← contentOfAll g.operands
    emit (d.lines 1 false (Octets.lines cs)).flatten
    return status
  else
    forEach (sources g) fun file => do
      let r ← reading file fun descriptor => do
        let p ← get
        let isOutput : Bool := match outputNode? p, p.openFileOf? descriptor with
          | some (node, out), some (_, f) =>
            let size := match p.files.content? node with
              | some (.file bytes) => bytes.length
              | _ => 0
            f.target = .node node && f.offset < (if out.appends then size else out.offset)
          | _, _ => false
        if isOutput then
          faultWith (Quote.ifNeeded file ++ ": input file is output file".toList)
          return (none, 1)
        else return (← passOn descriptor (Nat.pow 2 30), 0)
      match r with
      | .error e | .ok (some e, _) => do
        faultAbout file e
        return 1
      | .ok (none, status) => return status

/-- Pass the input on to files too. -/
def tee (_ : Launcher) (args : List Octets) : Run Nat := do
  let g ← given [.plain 'a' "append", .plain 'i' "ignore-interrupts", .plain 'p' "p",
    .long "output-error" .attached] args
  let (descriptors, status) ← g.operands.foldlM (fun (found, status) file => do
    let p ← get
    match ← openSink (p.pathOf file) (!g.has "append") (g.has "append") false with
    | .ok opened =>
      let number := Nat.pow 2 20 + found.length
      modify (withDescriptor number opened)
      return (found ++ [(file, number)], status)
    | .error e =>
      faultAbout file e
      return (found, 1)) ([], 0)
  let rec copy : (fuel : Nat) → (status : Nat) → Run Nat
    | 0, _ => throw .exhausted
    | fuel + 1, status => do
      match ← readReady 0 block with
      | .error e =>
        fault ("read error: " ++ meaning e)
        return 1
      | .ok [] => return status
      | .ok cs =>
        stepOn
        put cs
        let status ← descriptors.foldlM (fun status (file, number) => do
          match ← writeTo number cs with
          | some e =>
            faultAbout file e
            return 1
          | none => return status) status
        copy fuel status
  copy (Nat.pow 2 30) status

/-! ## The beginning and the end -/

/-- How much of a file is wanted. -/
structure Amount where
  count : Nat
  /-- Octets instead of lines. -/
  octets : Bool
  /-- All but so many, or from there on. -/
  other : Bool

/-- The line above the content of a file if there are several. -/
def titled (isFirst : Bool) (file : Octets) : Octets :=
  (if isFirst then [] else ['\n']) ++ "==> ".toList ++
    (if file = ['-'] then "standard input".toList else file) ++ " <==\n".toList

def hasTitles (g : Given) : Bool :=
  match g.lastOf? ["quiet", "silent", "verbose"] with
  | some "verbose" => true
  | some _ => false
  | none => 1 < g.operands.length

/-- The first octets of a text that hold so many lines. -/
def firstLines (count : Nat) (cs : Octets) : Octets :=
  let rec go : Nat → Octets → Octets → Octets
    | _, done, [] => done
    | 0, done, _ => done
    | n + 1, done, c :: rest => if c = '\n' then go n (c :: done) rest else go (n + 1) (c :: done) rest
  (go count [] cs).reverse

def lineCount (cs : Octets) : Nat := cs.countP (· == '\n')

/-- Pass on the first lines or octets behind a descriptor, reading no more
than that if the rest can be left. -/
def passFirst (descriptor : Nat) (octets : Bool) : (fuel : Nat) → (count : Nat) →
    Run (Option IoError)
  | 0, _ => throw .exhausted
  | _ + 1, 0 => return none
  | fuel + 1, count => do
    match ← readReady descriptor (if octets then min count 8192 else 8192) with
    | .error e => return some e
    | .ok [] => return none
    | .ok cs =>
      stepOn
      let taken := if octets then cs else firstLines count cs
      unread descriptor (cs.length - taken.length)
      emit taken
      passFirst descriptor octets fuel (count - if octets then cs.length else lineCount taken)

def withoutLast (a : Amount) (cs : Octets) : Octets :=
  if a.octets then cs.take (cs.length - a.count)
  else
    let lines := Octets.lines cs
    (lines.take (lines.length - a.count)).flatten

/-- An old way to write an amount: digits right behind the hyphen. -/
def modernised (count : Octets → List Octets) : List Octets → List Octets
  | ('-' :: c :: rest) :: args =>
    if c.isDigit then
      let digits := (c :: rest).takeWhile Char.isDigit
      let letters := (c :: rest).drop digits.length
      let unit := letters.filter fun c => ['b', 'k', 'm'].contains c
      let others := letters.filter fun c => ['q', 'v', 'f'].contains c
      (if letters.contains 'c' then ["-c".toList, digits ++ unit] else count (digits ++ unit)) ++
        others.map (fun c => ['-', c]) ++ args
    else ('-' :: c :: rest) :: args
  | args => args

def refuseSource (file : Octets) (e : IoError) : Run Nat := do
  faultAt ("cannot open ".toList ++ Quote.always file ++ " for reading".toList) e
  return 1

def readFailure (file : Octets) (e : IoError) : Run Nat := do
  faultAt ("error reading ".toList ++
    Quote.always (if file = ['-'] then "standard input".toList else file)) e
  return 1

def amountIn (g : Given) (sign : Char) : Run Amount := do
  match g.lastOf? ["lines", "bytes"] with
  | none => return ⟨10, false, false⟩
  | some word =>
    let text := (g.last? word).getD []
    let octets := word == "bytes"
    let other := text.head? == some sign
    let digits := if text.head? == some '-' || other then text.drop 1 else text
    match sized? digits with
    | some count => return ⟨count, octets, other⟩
    | none =>
      refuse 1 ("invalid number of ".toList ++ word.toList ++ ": ".toList ++ Quote.text
        (if sign = '-' || other then digits else text))

/-- Write what each source gives, under its title. -/
def eachTitled (g : Given) (act : Octets → Nat → Run (Option IoError)) : Run Nat := do
  let titles := hasTitles g
  (sources g).zipIdx.foldlM (fun status (file, n) => do
    let r ← reading file fun descriptor => do
      if titles then put (titled (n = 0) file)
      act file descriptor
    match r with
    | .error e => return max status (← refuseSource file e)
    | .ok (some e) => return max status (← readFailure file e)
    | .ok none => return status) 0

def head (_ : Launcher) (args : List Octets) : Run Nat := do
  let g ← given [.valued 'n' "lines", .valued 'c' "bytes", .plain 'q' "quiet",
    .plain 'q' "silent", .plain 'v' "verbose", .plain 'z' "zero-terminated"]
    (modernised (fun n => ["-n".toList, n]) args)
  let amount ← amountIn g '-'
  eachTitled g fun _ descriptor => do
    if amount.other then
      match ← readAll descriptor with
      | .error e => return some e
      | .ok cs =>
        emit (withoutLast amount cs)
        return none
    else passFirst descriptor amount.octets (Nat.pow 2 30) amount.count

/-- The last lines or octets of a text, or those from a place on. -/
def lastPart (a : Amount) (cs : Octets) : Octets :=
  if a.octets then if a.other then cs.drop (a.count - 1) else cs.drop (cs.length - a.count)
  else
    let lines := Octets.lines cs
    (if a.other then lines.drop (a.count - 1) else lines.drop (lines.length - a.count)).flatten

def tail (_ : Launcher) (args : List Octets) : Run Nat := do
  let g ← given [.valued 'n' "lines", .valued 'c' "bytes", .plain 'q' "quiet",
    .plain 'q' "silent", .plain 'v' "verbose", ⟨some 'f', "follow", .nothing⟩, .plain 'F' "F",
    .long "retry" .nothing, .long "pid" .value, .valued 's' "sleep-interval",
    .plain 'z' "zero-terminated"] (modernised (fun n => ["-n".toList, n]) args)
  let amount ← amountIn g '+'
  let status ← eachTitled g fun _ descriptor => do
    match ← readAll descriptor with
    | .error e => return some e
    | .ok cs =>
      emit (lastPart amount cs)
      return none
  if (g.has "follow" || g.has "F") && !g.operands.isEmpty then waitForEver
  return status

/-! ## Counts -/

/-- What is counted in a text. -/
structure Counts where
  lines : Nat := 0
  words : Nat := 0
  octets : Nat := 0
  longest : Nat := 0

/-- The counts of two texts together. -/
def Counts.plus (a b : Counts) : Counts :=
  ⟨a.lines + b.lines, a.words + b.words, a.octets + b.octets, max a.longest b.longest⟩

def columns (line : Octets) : Nat :=
  let (longest, here) := line.foldl (fun (longest, here) c =>
    if c = '\t' then (longest, here + (8 - here % 8))
    else if c = '\r' || c = '\x0c' then (max longest here, 0)
    else (longest, if 32 ≤ c.toNat && c.toNat < 127 then here + 1 else here)) (0, 0)
  max longest here

def counts (cs : Octets) : Counts where
  lines := lineCount cs
  words := (Text.wordsFrom isSpace [] cs).length
  octets := cs.length
  longest := ((Text.split '\n' cs).map columns).foldl max 0

/-- What a source is: whether its size is known, and that size. -/
def sizeOf? (p : State) (file : Octets) : Option (Option Nat) :=
  let sized (node : Nat) : Option Nat :=
    match p.files.content? node with
    | some (.file bytes) => some bytes.length
    | _ => none
  if file = ['-'] then
    match p.openFileOf? 0 with
    | some (_, f) =>
      match f.target with
      | .node node => some (sized node)
      | .pipe _ => some none
    | none => none
  else (p.files.find (p.pathOf file)).toOption.map sized

def wc (_ : Launcher) (args : List Octets) : Run Nat := do
  let g ← given [.plain 'c' "bytes", .plain 'm' "chars", .plain 'l' "lines",
    .plain 'L' "max-line-length", .plain 'w' "words", .long "total" .value] args
  let some' := g.options.any fun o => o.1 != "total"
  let wanted := (["lines", "words", "chars", "bytes", "max-line-length"].filter fun word =>
    if some' then g.has word else ["lines", "words", "bytes"].contains word)
  let files := sources g
  let p ← get
  let width := if files.length = 1 && wanted.length = 1 then 1
    else
      let sizes := files.filterMap (sizeOf? p)
      let total := sizes.foldl (fun n size => n + size.getD 0) 0
      max (Octets.ofNat total).length (if sizes.any Option.isNone then 7 else 1)
  let line (c : Counts) (file : Octets) : Octets :=
    let cells := wanted.map fun
      | "lines" => c.lines
      | "words" => c.words
      | "max-line-length" => c.longest
      | _ => c.octets
    List.intercalate [' '] (cells.map fun n => Octets.padLeft width ' ' (Octets.ofNat n)) ++
      (if file.isEmpty then [] else ' ' :: Quote.ifNeeded file)
  let (total, status) ← files.foldlM (fun (total, status) file => do
    let shown := if g.operands.isEmpty then [] else file
    match ← contentOf file with
    | .ok cs =>
      let c := counts cs
      putLine (line c shown)
      return (total.plus c, status)
    | .error e =>
      faultAbout file e
      if e = .isADirectory then putLine (line {} shown)
      return (total, 1)) ({}, 0)
  if 1 < files.length then putLine (line total "total".toList)
  return status

/-! ## The other way round, and numbers -/

/-- Write lines in the opposite order. -/
def tac (_ : Launcher) (args : List Octets) : Run Nat := do
  let g ← given [.plain 'b' "before", .plain 'r' "regex", .valued 's' "separator"] args
  forEach (sources g) fun file => do
    let r ← reading file readAll
    match r with
    | .error e => do
      faultAt ("failed to open ".toList ++ Quote.always file ++ " for reading".toList) e
      return 1
    | .ok (.error e) => do
      faultAt (Quote.ifNeeded file ++ ": read error".toList) e
      return 1
    | .ok (.ok cs) => do
      emit (Octets.lines cs).reverse.flatten
      return 0

/-- Write the characters of each line in the opposite order. -/
def rev (_ : Launcher) (args : List Octets) : Run Nat := do
  let g ← given [] args
  forEach (sources g) fun file => do
    match ← contentOf file with
    | .error e => do
      faultAt ("cannot open ".toList ++ file) e
      return 1
    | .ok cs => do
      emit ((Octets.lines cs).flatMap fun line =>
        if line.getLast? == some '\n' then line.dropLast.reverse ++ ['\n'] else line.reverse)
      return 0

/-- Lines with numbers in front of those that count. -/
def numbered (counts : Octets → Bool) (shown : Nat → Octets) (gap : Octets) (step : Nat) :
    (number : Nat) → List Octets → List Octets
  | _, [] => []
  | number, line :: rest =>
    if counts line then
      (shown number ++ line ++ ['\n']) :: numbered counts shown gap step (number + step) rest
    else (gap ++ line ++ ['\n']) :: numbered counts shown gap step number rest

def nl (_ : Launcher) (args : List Octets) : Run Nat := do
  let g ← given [.valued 'b' "body-numbering", .valued 'd' "section-delimiter",
    .valued 'f' "footer-numbering", .valued 'h' "header-numbering", .valued 'i' "line-increment",
    .valued 'l' "join-blank-lines", .valued 'n' "number-format", .plain 'p' "no-renumber",
    .valued 's' "number-separator", .valued 'v' "starting-line-number",
    .valued 'w' "number-width"] args
  let number (word : String) (default : Nat) : Nat :=
    ((g.last? word).bind Octets.nat?).getD default
  let width := number "number-width" 6
  let separator := (g.last? "number-separator").getD ['\t']
  let style := (g.last? "body-numbering").getD ['t']
  let counts (line : Octets) : Bool :=
    if style = ['a'] then true else if style = ['n'] then false else !line.isEmpty
  let shown (n : Nat) : Octets :=
    let digits := Octets.ofNat n
    (match g.last? "number-format" with
      | some ['l', 'n'] => Octets.padRight width ' ' digits
      | some ['r', 'z'] => Octets.padLeft width '0' digits
      | _ => Octets.padLeft width ' ' digits) ++ separator
  let gap := List.replicate (width + separator.length) ' '
  let (cs, status) ← contentOfAll g.operands
  emit (numbered counts shown gap (number "line-increment" 1) (number "starting-line-number" 1)
    (Octets.bareLines cs)).flatten
  return status

end BoardRig.Toolbox.Reading
