/-
Reading regular expressions.

There are two ways to write them. In the basic one a backslash makes an
operator of a bracket, a plus sign, a question mark and a bar; in the extended
one it takes that meaning away. What stands at the start of a part cannot be a
repetition, and a sign for the start or the end of a line is one only where
that can be. The text is first cut into tokens.
-/
import BoardRig.Regex.Syntax
import BoardRig.Shell.Escape
import BoardRig.Shell.Pattern

namespace BoardRig.Regex

open Shell

/-- How expressions are written. -/
structure Dialect where
  extended : Bool := false
  ignoreCase : Bool := false
  /-- Whether a backslash is an escape in brackets too. -/
  bracketEscapes : Bool := false
  /-- Whether letters behind a backslash stand for control characters. -/
  controls : Bool := false
  /-- Whether lines inside of a text have a start and an end. -/
  lines : Bool := false
  /-- Whether a text can be asked for again, and words have edges. -/
  words : Bool := true
  /-- Whether a bracket that closes no group stands for itself. -/
  looseGroups : Bool := false
  /-- Whether a repetition has to have something to repeat, and a brace has to
  be one, where both are operators. -/
  strict : Bool := false

/-- What is wrong with an expression. -/
inductive Fault where
  | openBracket
  | openGroup
  | closedGroup
  | openInterval
  | badInterval
  | bigInterval
  | nothingRepeated
  | trailingBackslash
  | unknownGroup
  | badRange
  | unknownClass
  | looseClass
  | loneBracket
deriving DecidableEq, Repr

def Fault.text : Fault → String
  | openBracket => "Unmatched [, [^, [:, [., or [="
  | openGroup => "Unmatched ( or \\("
  | closedGroup => "Unmatched ) or \\)"
  | openInterval => "Unmatched \\\x7b"
  | badInterval => "Invalid content of \\\x7b\\\x7d"
  | bigInterval => "Regular expression too big"
  | nothingRepeated => "Invalid preceding regular expression"
  | trailingBackslash => "Trailing backslash"
  | unknownGroup => "Invalid back reference"
  | badRange => "Invalid range end"
  | unknownClass => "Invalid character class name"
  | looseClass => "character class syntax is [[:space:]], not [:space:]"
  | loneBracket => "Invalid regular expression"

/-- A part of a written expression. -/
inductive Token where
  | character (c : Char)
  | single (holds : Char → Bool)
  | openGroup
  | closeGroup
  | bar
  | repetition (sign : Char) (least : Nat) (most : Option Nat)
  | caret
  | dollar
  | edge (e : Edge)
  | again (number : Nat)

/-! ## Brackets -/

/-- A member of a set at its front: the character, and the text behind it. -/
def member (d : Dialect) : Octets → Option (Char × Octets)
  | '[' :: '.' :: c :: '.' :: ']' :: rest => some (c, rest)
  | '\\' :: c :: rest =>
    if d.bracketEscapes then
      match Escape.control? c with
      | some e => some (if c = 'e' || c = 'b' then c else e, rest)
      | none => if c = '/' || c = '"' || c = ']' || c = '[' || c = '-' || c = '^' || c = '.' ||
          c = '$' || c = '*' || c = '+' || c = '?' || c = '(' || c = ')' || c = '|' then some (c, rest)
        else some ('\\', c :: rest)
    else if d.controls && (c = 'n' || c = 't') then some (if c = 'n' then '\n' else '\t', rest)
    else some ('\\', c :: rest)
  | c :: rest => some (c, rest)
  | [] => none

/-- The members of a set behind its opening bracket; a closing bracket that
comes first is one of them. -/
def members (d : Dialect) : (fuel : Nat) → (isFirst : Bool) → (holds : Char → Bool) → Octets →
    Except Fault ((Char → Bool) × Octets)
  | 0, _, _, _ => .error .openBracket
  | _ + 1, _, _, [] => .error .openBracket
  | fuel + 1, isFirst, holds, ']' :: rest =>
    if isFirst then memberRange d fuel holds ']' rest else .ok (holds, rest)
  | fuel + 1, _, holds, '[' :: ':' :: rest =>
    match Pattern.class? (':' :: rest) with
    | some (test, size) =>
      members d fuel false (fun c => holds c || test c) ((':' :: rest).drop size)
    | none => if Text.occursIn [':', ']'] rest then .error .unknownClass else .error .openBracket
  | fuel + 1, _, holds, '[' :: '=' :: c :: '=' :: ']' :: rest =>
    members d fuel false (fun e => holds e || e == c) rest
  | fuel + 1, _, holds, cs =>
    match member d cs with
    | some (c, rest) => memberRange d fuel holds c rest
    | none => .error .openBracket
where
  /-- A member, or a range that begins with it. -/
  memberRange (d : Dialect) (fuel : Nat) (holds : Char → Bool) (first : Char) (rest : Octets) :
      Except Fault ((Char → Bool) × Octets) :=
    match fuel with
    | 0 => .error .openBracket
    | fuel + 1 =>
      match rest with
      | '-' :: ']' :: rest => .ok (fun c => holds c || c == first || c == '-', rest)
      | '-' :: rest =>
        match member d rest with
        | some (last, rest) =>
          if last < first then .error .badRange
          else members d fuel false (fun c => holds c || (first ≤ c && c ≤ last)) rest
        | none => .error .openBracket
      | rest => members d fuel false (fun c => holds c || c == first) rest

/-- The set behind an opening bracket. -/
def bracket (d : Dialect) (cs : Octets) : Except Fault ((Char → Bool) × Octets) := do
  if cs.isEmpty then throw .loneBracket
  let inner := cs.takeWhile (· != ']')
  if inner.head? == some ':' && inner.getLast? == some ':' && 1 < inner.length &&
      inner.length < cs.length then
    throw .looseClass
  let negative := cs.head? == some '^'
  let (holds, rest) ← members d (2 * cs.length + 4) true (fun _ => false)
    (if negative then cs.drop 1 else cs)
  return (fun c => holds c != negative, rest)

/-! ## Tokens -/

/-- The limits of a repetition behind its opening brace, and the text behind
it. -/
def interval (extended : Bool) (cs : Octets) : Except Fault (Nat × Option Nat × Octets) := do
  let low := cs.takeWhile Char.isDigit
  let rest := cs.drop low.length
  let least := (Octets.leadingNat low).1
  let (most, rest) ← match rest with
    | ',' :: more =>
      let high := more.takeWhile Char.isDigit
      pure (if high.isEmpty then none else some (Octets.leadingNat high).1, more.drop high.length)
    | more =>
      if low.isEmpty then throw (if cs.isEmpty then .openInterval else .badInterval)
      pure (some least, more)
  let rest ← match extended, rest with
    | true, '\x7d' :: rest => pure rest
    | false, '\\' :: '\x7d' :: rest => pure rest
    | _, [] => throw .openInterval
    | _, _ => throw .badInterval
  if most.any (· < least) then throw .badInterval
  if 32767 < least || most.any (32767 < ·) then throw .bigInterval
  return (least, most, rest)

/-- The classes that letters behind a backslash stand for. -/
def letterClass? : Char → Option Token
  | 'w' => some (.single Edge.isWordCharacter)
  | 'W' => some (.single fun c => !Edge.isWordCharacter c)
  | 's' => some (.single fun c => c == ' ' || ('\t' ≤ c && c ≤ '\r'))
  | 'S' => some (.single fun c => !(c == ' ' || ('\t' ≤ c && c ≤ '\r')))
  | 'b' => some (.edge .word)
  | 'B' => some (.edge .noWord)
  | '<' => some (.edge .wordStart)
  | '>' => some (.edge .wordFinish)
  | '\x60' => some (.edge .start)
  | '\'' => some (.edge .finish)
  | _ => none

/-- The token that signs and letters behind a backslash are. -/
def escapedToken (d : Dialect) (c : Char) (rest : Octets) : Except Fault (Token × Octets) :=
  let plain : Except Fault (Token × Octets) := .ok (.character c, rest)
  if d.extended && "(){}|+?.*^$[]\\/".toList.contains c then plain
  else
    match c with
    | '(' => .ok (.openGroup, rest)
    | ')' => .ok (.closeGroup, rest)
    | '|' => .ok (.bar, rest)
    | '+' => .ok (.repetition '+' 1 none, rest)
    | '?' => .ok (.repetition '?' 0 (some 1), rest)
    | '\x7b' => do
      let (least, most, rest) ← interval false rest
      return (.repetition '\x7b' least most, rest)
    | c =>
      if d.controls && (Escape.control? c).isSome && c != 'b' && c != 'e' then
        .ok (.character ((Escape.control? c).getD c), rest)
      else if d.words && '1' ≤ c && c ≤ '9' then .ok (.again (c.toNat - 48), rest)
      else if d.words then
        match letterClass? c with
        | some t => .ok (t, rest)
        | none => plain
      else if d.controls && Escape.isOctal c then
        let (e, rest) := Escape.numbered 8 3 (c :: rest)
        .ok (.character e, rest)
      else plain

def tokens (d : Dialect) : (fuel : Nat) → Octets → Except Fault (List Token)
  | 0, _ => .ok []
  | _ + 1, [] => .ok []
  | fuel + 1, c :: rest => do
    let one (t : Token) : Except Fault (List Token) := do return t :: (← tokens d fuel rest)
    match c with
    | '\\' =>
      match rest with
      | [] => throw .trailingBackslash
      | e :: rest =>
        let (t, rest) ← escapedToken d e rest
        return t :: (← tokens d fuel rest)
    | '[' =>
      let (holds, rest) ← bracket d rest
      return .single holds :: (← tokens d fuel rest)
    | '.' => one (.single fun _ => true)
    | '*' => one (.repetition '*' 0 none)
    | '^' => one .caret
    | '$' => one .dollar
    | c =>
      if !d.extended then one (.character c)
      else
        match c with
        | '(' => one .openGroup
        | ')' => one .closeGroup
        | '|' => one .bar
        | '+' => one (.repetition '+' 1 none)
        | '?' => one (.repetition '?' 0 (some 1))
        | '\x7b' =>
          match interval true rest with
          | .ok (least, most, rest) =>
            return .repetition '\x7b' least most :: (← tokens d fuel rest)
          | .error .bigInterval => throw .bigInterval
          | .error e => if d.strict then throw e else one (.character '\x7b')
        | c => one (.character c)

/-! ## Expressions -/

/-- What has been read, and what is left. -/
structure Progress where
  rest : List Token
  /-- How many groups were opened. -/
  groups : Nat
  /-- The groups that are complete. -/
  closed : List Nat := []
  /-- The signs for repetitions that had nothing to repeat. -/
  idle : Octets := []

abbrev Reading := StateT Progress (Except Fault)

def peek : Reading (Option Token) := return (← get).rest.head?

/-- Go on behind the token in front. -/
def skip : Reading Unit := modify fun p => { p with rest := p.rest.tail }

def one (d : Dialect) (holds : Char → Bool) : Regex :=
  if d.ignoreCase then .single fun c => holds c || holds c.toLower || holds c.toUpper
  else .single holds

def repeated (a : Regex) (least : Nat) (most : Option Nat) : Regex := .times a least most

/-- The repetitions behind an expression. `repeats` says that one stands there
already; in the basic way of writing, not all may follow it. -/
def repetitions (d : Dialect) : (fuel : Nat) → (repeats : Bool) → Regex → Reading Regex
  | 0, _, a => pure a
  | fuel + 1, repeats, a => do
    match ← peek with
    | some (.repetition sign least most) =>
      if repeats && d.strict && !d.extended && (sign = '*' || sign = '\x7b') then
        throw .nothingRepeated
      skip
      repetitions d fuel true (repeated a least most)
    | _ => return a

mutual

def alternatives (d : Dialect) : (fuel : Nat) → (depth : Nat) → Reading Regex
  | 0, _ => pure .empty
  | fuel + 1, depth => do
    let first ← run d fuel depth true .empty
    match ← peek with
    | some .bar =>
      skip
      return .either first (← alternatives d fuel depth)
    | _ => return first
termination_by structural fuel => fuel

/-- One thing behind another, up to a bar or the end of a group. -/
def run (d : Dialect) : (fuel : Nat) → (depth : Nat) → (isFirst : Bool) → (before : Regex) →
    Reading Regex
  | 0, _, _, before => pure before
  | fuel + 1, depth, isFirst, before => do
    let front : Edge := if d.lines then .lineStart else .start
    let back : Edge := if d.lines then .lineFinish else .finish
    let withNext (isFirst : Bool) (a : Regex) : Reading Regex := do
      let a ← repetitions d fuel false a
      run d fuel depth isFirst (.sequence before a)
    -- What says only something about a place leaves what follows at the start.
    let anchored (e : Edge) : Reading Regex :=
      if d.extended && !d.strict && !isFirst then withNext false (.edge e)
      else run d fuel depth true (.sequence before (.edge e))
    match ← peek with
    | none | some .bar => return before
    | some .closeGroup =>
      if 0 < depth then return before
      else if d.looseGroups then do skip; withNext false (one d (· == ')'))
      else throw .closedGroup
    | some (.character c) => do skip; withNext false (one d (· == c))
    | some (.single holds) => do skip; withNext false (one d holds)
    | some (.edge e) => do skip; anchored e
    | some .caret =>
      skip
      if d.extended || isFirst then anchored front
      else withNext false (one d (· == '^'))
    | some .dollar =>
      skip
      let isLast := match ← peek with
        | none | some .bar | some .closeGroup => true
        | _ => false
      if d.extended || isLast then anchored back
      else withNext false (one d (· == '$'))
    | some (.repetition sign least most) =>
      skip
      if !isFirst then run d fuel depth false (.sequence before (repeated .empty least most))
      else if d.extended && d.strict then throw .nothingRepeated
      else if d.extended then
        modify fun p => { p with idle := p.idle ++ [sign] }
        run d fuel depth isFirst before
      else if sign = '\x7b' then throw .nothingRepeated
      else withNext false (one d (· == sign))
    | some (.again n) =>
      skip
      if !(← get).closed.contains n then throw .unknownGroup
      withNext false (.again n)
    | some .openGroup =>
      skip
      let n := (← get).groups + 1
      modify fun p => { p with groups := n }
      let inner ← alternatives d fuel (depth + 1)
      match ← peek with
      | some .closeGroup =>
        skip
        modify fun p => { p with closed := n :: p.closed }
        withNext false (.group n inner)
      | _ => throw .openGroup
termination_by structural fuel => fuel

end

/-- An expression that was read. -/
structure Parsed where
  expression : Regex
  /-- How many groups it has. -/
  groups : Nat
  /-- The signs for repetitions that had nothing to repeat. -/
  idle : Octets

def read (d : Dialect) (cs : Octets) : Except Fault Parsed := do
  let ts ← tokens d (cs.length + 1) cs
  let (r, p) ← (alternatives d (4 * ts.length + 8) 0).run { rest := ts, groups := 0 }
  return ⟨r, p.groups, p.idle⟩

end BoardRig.Regex
