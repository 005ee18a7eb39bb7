/-
Programs that come with the machine.

A program gets its arguments, and a way to run other programs in its place. It
reads and writes through its descriptors and yields a status: zero for
success. It speaks in the name under which it was started, and puts names that
could be misread in quotes.
-/
import BoardRig.Shell.Control
import BoardRig.Shell.Escape

namespace BoardRig.Toolbox

open Shell State

/-- A way to go on as another program, given its name and its arguments. It
fails if there is no such program. -/
abbrev Launcher := List Octets → Run (Except IoError Nat)

/-- A program, given a way to run other ones and its arguments. -/
abbrev Tool := Launcher → List Octets → Run Nat

/-! ## Quotes -/

namespace Quote

/-- Whether a character in a name has a meaning of its own to a shell. -/
def isSpecial (alone : Bool) (place : Nat) (c : Char) : Bool :=
  if c = '#' || c = '~' then place = 0
  else if c = '{' || c = '}' then alone
  else c.toNat < 32 || 126 < c.toNat || " !\"$&'()*;<=>?[\\]^\x60|:".toList.contains c && c != ']'

/-- Whether a name can stand in double quotes as it is. -/
def isPlainInDouble (c : Char) : Bool :=
  c.isAlphanum || " '%+,-./:]_#~".toList.contains c

/-- The sign for a character that cannot be written. -/
def signFor (c : Char) : Octets :=
  let named : List (Char × Char) := [
    ('\x07', 'a'), ('\x08', 'b'), ('\t', 't'), ('\n', 'n'), ('\x0b', 'v'), ('\x0c', 'f'),
    ('\r', 'r')]
  match named.lookup c with
  | some letter => ['\\', letter]
  | none => '\\' :: Octets.padLeft 3 '0' (Nat.toDigits 8 c.toNat)

/-- Whether a character can be written. -/
def isWritable (c : Char) : Bool := 32 ≤ c.toNat && c.toNat < 127

/-- A name in quotes such that a shell reads it back: the characters behind an
opening quote. `signs` says that signs for characters were written just
before. -/
def rest (signs : Bool) : Octets → Octets
  | [] => ['\'']
  | c :: cs =>
    if isWritable c then
      let before : Octets := if signs then ['\'', '\''] else []
      if c = '\'' then before ++ "'\\''".toList ++ rest false cs else before ++ c :: rest false cs
    else (if signs then [] else "'$'".toList) ++ signFor c ++ rest true cs

/-- A name in quotes such that a shell reads it back. -/
def always (cs : Octets) : Octets :=
  if cs.contains '\'' && cs.all isPlainInDouble then '"' :: cs ++ ['"']
  else '\'' :: rest false cs

/-- A name as it is if a shell would read it so, and in quotes otherwise. -/
def ifNeeded (cs : Octets) : Octets :=
  if cs.isEmpty || cs.zipIdx.any fun (c, n) => isSpecial (cs.length = 1) n c then always cs else cs

/-- A text between quotes, with signs for what cannot be written. -/
def text (cs : Octets) : Octets :=
  '\'' :: cs.flatMap (fun c =>
    if c = '\'' || c = '\\' then ['\\', c] else if isWritable c then [c] else signFor c) ++ ['\'']

end Quote

/-! ## Complaints -/

def faultWith (cs : Octets) : Run Unit := do
  complainWith (Octets.ofString (← get).name ++ ": ".toList ++ cs)

/-- Complain in the name of the program with a text. -/
def fault (text : String) : Run Unit := faultWith (Octets.ofString text)

/-- Complain about a name and what has failed with it. -/
def faultAt (cs : Octets) (e : IoError) : Run Unit :=
  faultWith (cs ++ ": ".toList ++ Octets.ofString (meaning e))

/-- Complain about a file that cannot be read. -/
def faultAbout (file : Octets) (e : IoError) : Run Unit := faultAt (Quote.ifNeeded file) e

def refuse {α : Type} (status : Nat) (cs : Octets) : Run α := do
  faultWith cs
  throw (.exit status)

/-- Complain with a hint at where to read more, and stop with a status. -/
def misused {α : Type} (status : Nat) (cs : Octets) : Run α := do
  faultWith cs
  complainWith ("Try '".toList ++ Octets.ofString (← get).name ++
    " --help' for more information.".toList)
  throw (.exit status)

def missingOperand {α : Type} (status : Nat) : Run α := misused status "missing operand".toList

/-- Complain that there are too many operands. -/
def extraOperand {α : Type} (status : Nat) (cs : Octets) : Run α :=
  misused status ("extra operand ".toList ++ Quote.text cs)

/-! ## Output -/

def emit (cs : Octets) : Run Unit := if cs.isEmpty then pure () else put cs

def emitLines (lines : List Octets) : Run Unit := emit (Octets.ofLines lines)

/-- Run a program that at its end looks whether all could be written. -/
def checked (status : Nat) (act : Run Nat) : Run Nat := do
  let outcome ← (fun p =>
    match act p with
    | (.error (.exit status), q) => (.ok status, q)
    | outcome => outcome : Run Nat)
  match (← get).unwritten with
  | some e =>
    fault ("write error: " ++ meaning e)
    return status
  | none => return outcome

/-! ## Input -/

/-- Act with a descriptor for what an argument names; a hyphen is the input. -/
def reading {α : Type} (file : Octets) (act : Nat → Run α) : Run (Except IoError α) := do
  if file = ['-'] then return .ok (← act 0)
  else
    let p ← get
    match ← openSource (p.pathOf file) with
    | .error e => return .error e
    | .ok opened =>
      let number := Nat.pow 2 20 + p.descriptors.length
      modify (withDescriptor number opened)
      let r ← act number
      modify (withoutDescriptor number)
      return .ok r

/-- All octets of what an argument names; a hyphen is the input. -/
def contentOf (file : Octets) : Run (Except IoError Octets) := do
  match ← reading file readAll with
  | .ok r => return r
  | .error e => return .error e

/-- All octets of each operand, or of the input if there is none, one behind
the other; complains about those that cannot be read. -/
def contentOfAll (files : List Octets) : Run (Octets × Nat) := do
  let files := if files.isEmpty then [['-']] else files
  files.foldlM (fun (all, status) file => do
    match ← contentOf file with
    | .ok cs => return (all ++ cs, status)
    | .error e =>
      faultAbout file e
      return (all, 1)) ([], 0)

/-- Do something with each line behind a descriptor, with its ending, until
that is enough. -/
def eachLine (descriptor : Nat) (act : Octets → Run Bool) : (fuel : Nat) → Run (Option IoError)
  | 0 => throw .exhausted
  | fuel + 1 => do
    match ← readLine descriptor with
    | .error e => return some e
    | .ok [] => return none
    | .ok line =>
      stepOn
      if ← act line then eachLine descriptor act fuel else return none

/-- Do something with each line of the operands, or of the input if there are
none. -/
def eachLineOf (files : List Octets) (act : Octets → Run Unit) : Run Nat := do
  let files := if files.isEmpty then [['-']] else files
  files.foldlM (fun status file => do
    let r ← reading file fun descriptor =>
      eachLine descriptor (fun line => do act line; return true) (Nat.pow 2 30)
    match r with
    | .ok none => return status
    | .ok (some e) | .error e =>
      faultAbout file e
      return 1) 0

def bare (line : Octets) : Octets := if line.getLast? == some '\n' then line.dropLast else line

/-- Whether a character separates words. -/
def isSpace (c : Char) : Bool := c == ' ' || ('\t' ≤ c && c ≤ '\r')

/-- Whether a character separates words on a line. -/
def isBlank (c : Char) : Bool := c == ' ' || c == '\t'

/-- Do something for each operand; yields the greatest status. -/
def forEach (args : List Octets) (act : Octets → Run Nat) : Run Nat :=
  args.foldlM (fun status arg => do return max status (← act arg)) 0

/-! ## Numbers -/

/-- The units behind a number, by letter, as powers of 1024. -/
def units : List (Char × Nat) := [
  ('K', 1), ('k', 1), ('M', 2), ('G', 3), ('T', 4), ('P', 5), ('E', 6), ('Z', 7), ('Y', 8)]

/-- What the letters behind a number multiply it with. -/
def unit? (cs : Octets) : Option Nat :=
  match cs with
  | [] => some 1
  | ['b'] => some 512
  | [c] => (units.lookup c).map (Nat.pow 1024)
  | [c, 'B'] => (units.lookup c).map (Nat.pow 1000)
  | [c, 'i', 'B'] => (units.lookup c).map (Nat.pow 1024)
  | _ => none

def sized? (cs : Octets) : Option Nat := do
  let (n, rest) := Octets.leadingNat cs
  if (cs.head?.any Char.isDigit) then return n * (← unit? rest)
  else if rest.isEmpty then none
  else unit? rest

end BoardRig.Toolbox
