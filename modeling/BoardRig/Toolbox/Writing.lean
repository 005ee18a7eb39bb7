/-
Programs that write what their arguments say: texts, formats, numbers in a
row.
-/
import BoardRig.Shell.Printf
import BoardRig.Toolbox.Options

namespace BoardRig.Toolbox.Writing

open Shell State Decimal

/-! ## Texts -/

/-- How a text is written. -/
structure EchoStyle where
  newline : Bool := true
  escapes : Bool := false

def EchoStyle.heed (s : EchoStyle) : Char → Option EchoStyle
  | 'n' => some { s with newline := false }
  | 'e' => some { s with escapes := true }
  | 'E' => some { s with escapes := false }
  | _ => none

/-- The options in front of texts. What is no option is a text. -/
def echoStyle (s : EchoStyle) : List Octets → EchoStyle × List Octets
  | ('-' :: c :: letters) :: rest =>
    match (c :: letters).foldl (fun s c => s.bind (·.heed c)) (some s) with
    | some s => echoStyle s rest
    | none => (s, ('-' :: c :: letters) :: rest)
  | args => (s, args)

def echo (_ : Launcher) (args : List Octets) : Run Nat := do
  let (style, texts) := echoStyle {} args
  let cs := List.intercalate [' '] texts
  if style.escapes then
    let (cs, ended) := Escape.expanded Escape.escapedFully cs
    emit (cs ++ if style.newline && !ended then ['\n'] else [])
  else emit (cs ++ if style.newline then ['\n'] else [])
  return 0

/-- How many octets are written at once of what has no end. -/
def blockSize : Nat := 8192

def again (block : Octets) : (fuel : Nat) → Run Nat
  | 0 => throw .exhausted
  | fuel + 1 => do
    stepOn
    if let some e ← writeTo 1 block then
      fault ("standard output: " ++ meaning e)
      return 1
    again block fuel

/-- Whether somebody may stop reading what is written. -/
def isWatched (p : State) : Bool :=
  match p.openFileOf? 1 with
  | some (_, f) =>
    match f.target with
    | .pipe pipe => ((p.pipe? pipe).bind (·.limit)).isSome
    | .node node => (p.files.refusal? node).isSome
  | none => true

def yes (_ : Launcher) (args : List Octets) : Run Nat := do
  let g ← givenWith [] false 1 args
  let line := (if g.operands.isEmpty then ['y'] else List.intercalate [' '] g.operands) ++ ['\n']
  let block := (List.replicate (max 1 (blockSize / line.length)) line).flatten
  if isWatched (← get) then again block (Nat.pow 2 30) else waitForEver

/-! ## Formats -/

def dialect : Printf.Dialect :=
  ⟨Quote.text, "expected a numeric value", "value not completely converted", .extended⟩

/-- What stands behind a backslash, and the text behind it. -/
def formatEscape (cs : Octets) : Option (Octets × Octets) :=
  match cs with
  | 'x' :: c :: rest =>
    if (Radix.digit? 16 c).isSome then
      let (d, rest) := Escape.numbered 16 2 (c :: rest)
      some ([d], rest)
    else none
  | ['x'] => none
  | '"' :: rest => some (['"'], rest)
  | c :: rest =>
    if Escape.isOctal c || (Escape.control? c).isSome then
      let (d, rest) := Escape.escaped (c :: rest)
      some ([d], rest)
    else some (['\\', c], rest)
  | [] => some (['\\'], [])

/-- The directives that go with a flag. -/
def allowedWith : Char → Octets
  | '#' => "aAeEfFgGoxX".toList
  | '0' => "aAeEfFgGdiouxX".toList
  | '\'' => "dfFgGiu".toList
  | _ => "aAeEfFgGcdiosuxX".toList

def pass : (fuel : Nat) → Octets → Printf.Progress → Printf.Progress
  | 0, _, p => p
  | _ + 1, [], p => p
  | _ + 1, '\\' :: 'c' :: _, p => { p with ended := true }
  | fuel + 1, '\\' :: rest, p =>
    match formatEscape rest with
    | some (cs, rest) => pass fuel rest (p.put cs)
    | none => { p with mistake := some "missing hexadecimal number in escape".toList }
  | fuel + 1, '%' :: '%' :: rest, p => pass fuel rest (p.put ['%'])
  | fuel + 1, '%' :: 'b' :: rest, p =>
    let (arg, p) := p.next
    let (cs, ended) := Escape.expanded Escape.escapedFully (arg.getD [])
    let p := p.put cs
    if ended then { p with ended := true } else pass fuel rest p
  | fuel + 1, '%' :: 'q' :: rest, p =>
    let (arg, p) := p.next
    pass fuel rest (p.put ((arg.map Quote.ifNeeded).getD []))
  | fuel + 1, '%' :: start, p =>
    let marks := start.takeWhile fun c => "-+ #0'".toList.contains c
    let allowed (c : Char) : Bool := marks.all fun mark => (allowedWith mark).contains c
    let (d, behind, p) := Printf.directive (start.filter (· != '\'')) p
    let rest := behind.dropWhile fun c => "hlLjtz".toList.contains c
    let letter := (rest.head?).getD '\x00'
    let rest := rest.drop 1
    if !(allowed letter && (allowedWith ' ').contains letter) ||
        (letter = 'c' && d.precision.isSome) then
      let size := start.length - rest.length
      { p with mistake := some ('%' :: start.take size ++ ": invalid conversion specification".toList) }
    else if letter = 's' then
      let (arg, p) := p.next
      pass fuel rest (p.put (d.text (arg.getD [])))
    else if letter = 'c' then
      let (arg, p) := p.next
      pass fuel rest (p.put (d.text [((arg.getD []).head?).getD '\x00']))
    else if letter = 'd' || letter = 'i' then
      let (n, p) := Printf.nextInt true p
      pass fuel rest (p.put (d.signed (Printf.clampSigned n)))
    else if ['o', 'u', 'x', 'X'].contains letter then
      let (n, p) := Printf.nextInt false p
      pass fuel rest (p.put (d.unsigned letter (Printf.clampUnsigned n)))
    else
      let (n, p) := Printf.nextNumber p
      pass fuel rest (p.put (d.real .extended letter n))
  | fuel + 1, c :: rest, p => pass fuel rest (p.put [c])

/-- Write the format until no argument is left, or until it takes none. -/
def passes (format : Octets) : (fuel : Nat) → Printf.Progress → Printf.Progress
  | 0, p => p
  | fuel + 1, p =>
    let q := pass (format.length + 1) format p
    if q.ended || q.mistake.isSome || q.arguments.isEmpty ||
        q.arguments.length = p.arguments.length then q
    else passes format fuel q

/-- Write arguments as a format says. -/
def printf (_ : Launcher) (args : List Octets) : Run Nat := do
  let args := if args.head? == some ['-', '-'] then args.drop 1 else args
  match args with
  | [] => missingOperand 1
  | format :: arguments =>
    let p := passes format (arguments.length + 1) { dialect, arguments }
    for complaint in p.complaints.reverse do faultWith complaint
    emit p.written.reverse
    match p.mistake, p.arguments with
    | some mistake, _ => refuse 1 mistake
    | none, extra :: _ =>
      if !p.ended then
        faultWith ("warning: ignoring excess arguments, starting with ".toList ++ Quote.text extra)
    | none, [] => pure ()
    return if p.complaints.isEmpty then 0 else 1

/-! ## Numbers in a row -/

/-- A number with a fraction: `units` of size `10 ^ -places`, as it was
written. -/
structure Term where
  units : Int
  /-- The digits behind the point. -/
  places : Nat
  /-- The characters that it takes. -/
  width : Nat

def term? (text : Octets) : Option Term :=
  let text := text.dropWhile fun c => Number.isGap c || c == '+'
  let negative := text.head? == some '-'
  let digits := if negative then text.drop 1 else text
  let (whole, fraction, rest) := Number.pointed 10 digits
  if whole.isEmpty && fraction.isEmpty then none
  else
    let (power, behind) := Number.powerBehind 'e' rest
    if !behind.isEmpty || 400 < power.natAbs then none
    else
      let n : Int := Binary64.ofDigits (whole ++ fraction)
      let places := ((fraction.length : Int) - power).toNat
      let units := n * Nat.pow 10 (power - (fraction.length : Int)).toNat
      let shownWhole : Nat := (max 1 whole.length) + (power - (fraction.length : Int)).toNat +
        (if power < 0 then 0 else min power.toNat fraction.length)
      let width := (if negative then 1 else 0) + shownWhole + (if 0 < places then places + 1 else 0)
      some ⟨if negative then -units else units, places, width⟩

/-- The number in units of another size. -/
def Term.scaled (t : Term) (places : Nat) : Int := t.units * Nat.pow 10 (places - t.places)

/-- A number of some units, with digits behind the point. -/
def shown (d : Directive) (scale places : Nat) (units : Int) : Octets :=
  let digits := d.fixed places units.natAbs (Nat.pow 10 scale)
  d.filled d.zeros (d.sign (units < 0)) digits

/-- How numbers are written: a directive and the text around it. -/
structure Format where
  before : Octets
  directive : Directive
  letter : Char
  after : Octets

def format (cs : Octets) : Except Octets Format :=
  let rec literal : (fuel : Nat) → Octets → Octets → Octets × Octets
    | 0, done, rest => (done.reverse, rest)
    | fuel + 1, done, '%' :: '%' :: rest => literal fuel ('%' :: done) rest
    | _ + 1, done, '%' :: rest => (done.reverse, '%' :: rest)
    | fuel + 1, done, c :: rest => literal fuel (c :: done) rest
    | _ + 1, done, [] => (done.reverse, [])
  let named := "format ".toList ++ Quote.text cs
  let (before, rest) := literal (cs.length + 1) [] cs
  match rest with
  | [] => .error (named ++ " has no % directive".toList)
  | _ :: rest =>
    let (d, rest, _) := Printf.directive rest { arguments := [] }
    let rest := if rest.head? == some 'L' then rest.drop 1 else rest
    match rest with
    | [] => .error (named ++ " ends in %".toList)
    | letter :: rest =>
      if !"aAeEfFgG".toList.contains letter then
        .error (named ++ " has unknown %".toList ++ [letter] ++ " directive".toList)
      else
        let (after, more) := literal (rest.length + 1) [] rest
        if more.isEmpty then .ok ⟨before, d, letter, after⟩
        else .error (named ++ " has too many % directives".toList)

/-- The options of a row, up to the first number. -/
def rowOptions : List Octets → List Octets × List Octets
  | [] => ([], [])
  | arg :: rest =>
    match arg with
    | '-' :: c :: _ =>
      if c = '.' || c.isDigit then ([], arg :: rest)
      else if arg = ['-', '-'] then ([], rest)
      else if arg = ['-', 's'] || arg = ['-', 'f'] then
        match rest with
        | value :: rest =>
          let (options, args) := rowOptions rest
          (arg :: value :: options, args)
        | [] => ([arg], [])
      else
        let (options, args) := rowOptions rest
        (arg :: options, args)
    | _ => ([], arg :: rest)

/-- Write the numbers of a row from some place on, a block at a time. -/
def rowFrom (write : Int → Octets) (separator : Octets) (first step : Int) : (fuel : Nat) →
    (place : Nat) → Run Nat
  | 0, _ => throw .exhausted
  | fuel + 1, place => do
    stepOn
    let block := (List.range 1000).map fun (n : Nat) =>
      write (first + step * ((place + n : Nat) : Int)) ++ separator
    if let some e ← writeTo 1 block.flatten then
      fault ("write error: " ++ meaning e)
      return 1
    rowFrom write separator first step fuel (place + 1000)

def seq (_ : Launcher) (args : List Octets) : Run Nat := do
  let (options, numbers) := rowOptions args
  let g ← given [.valued 'f' "format", .valued 's' "separator", .plain 'w' "equal-width"] options
  let numbers := g.operands ++ numbers
  let format? ← match g.last? "format" with
    | some cs =>
      match format cs with
      | .ok f => pure (some f)
      | .error text => refuse 1 text
    | none => pure none
  if format?.isSome && g.has "equal-width" then
    misused 1 "format string may not be specified when printing equal width strings".toList
  let number (cs : Octets) : Run Term := do
    match term? cs with
    | some t => return t
    | none => misused 1 ("invalid floating point argument: ".toList ++ Quote.text cs)
  let one : Term := ⟨1, 0, 1⟩
  let (first, step, last, endless) ← match numbers with
    | [] => missingOperand 1
    | _ :: _ :: _ :: extra :: _ => extraOperand 1 extra
    | [last] => do
      if last = "inf".toList then pure (one, one, one, true)
      else pure (one, one, ← number last, false)
    | [first, last] => do
      let first ← number first
      if last = "inf".toList then pure (first, one, one, true)
      else pure (first, one, ← number last, false)
    | [first, step, last] => do
      let first ← number first
      let increment ← number step
      if increment.units = 0 then
        misused 1 ("invalid Zero increment value: ".toList ++ Quote.text step)
      if last = "inf".toList then pure (first, increment, one, true)
      else pure (first, increment, ← number last, false)
  let scale := max first.places (max step.places last.places)
  let places := max first.places step.places
  let pointed (t : Term) : Nat :=
    t.width + (places - t.places) + (if t.places = 0 && 0 < places then 1 else 0)
  let lastWidth := if places < last.places then
      last.width - (last.places - places) - (if places = 0 then 1 else 0)
    else pointed last
  let directive : Directive := if g.has "equal-width" then
      { zeros := true, width := max (pointed first) lastWidth } else {}
  let write (units : Int) : Octets := match format? with
    | some f =>
      f.before ++ f.directive.real .extended f.letter
        (Number.rounded .extended (.finite (units < 0) units.natAbs (Nat.pow 10 scale))) ++ f.after
    | none => shown directive scale places units
  let separator := (g.last? "separator").getD ['\n']
  let a := first.scaled scale
  let d := step.scaled scale
  if endless then
    if isWatched (← get) then rowFrom write separator a d (Nat.pow 2 30) 0 else waitForEver
  else
    let b := last.scaled scale
    let count : Nat := if 0 < d then ((b - a) / d + 1).toNat else ((a - b) / (-d) + 1).toNat
    if 0 < count then
      put (List.intercalate separator ((List.range count).map fun (n : Nat) =>
        write (a + d * (n : Int))) ++ ['\n'])
    return 0

end BoardRig.Toolbox.Writing
