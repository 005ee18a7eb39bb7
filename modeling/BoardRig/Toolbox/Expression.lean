/-
Expressions and conditions whose parts are arguments.

An expression yields a text or a number, and its status tells whether that is
something. A condition only tells whether it holds.
-/
import BoardRig.Regex.Matching
import BoardRig.Regex.Reader
import BoardRig.Shell.Condition
import BoardRig.Toolbox.Options

namespace BoardRig.Toolbox.Expression

open Shell State

/-! ## Expressions -/

/-- What is wrong with an expression. -/
inductive Fault where
  | missingBehind (word : Octets)
  | unexpected (word : Octets)
  | unclosed (word : Octets)
  | noNumber
  | divisionByZero
  | badPattern (text : String)

def Fault.text : Fault → Octets
  | missingBehind w => "syntax error: missing argument after ".toList ++ Quote.text w
  | unexpected w => "syntax error: unexpected argument ".toList ++ Quote.text w
  | unclosed w =>
    if w = [')'] then "syntax error: unexpected ')'".toList
    else "syntax error: expecting ')' after ".toList ++ Quote.text w
  | noNumber => "non-integer argument".toList
  | divisionByZero => "division by zero".toList
  | badPattern text => text.toList

def number? (cs : Octets) : Option Int :=
  match cs with
  | '-' :: digits => (Octets.nat? digits).map fun n => -(n : Int)
  | digits => (Octets.nat? digits).map fun n => (n : Int)

/-- Whether a value is nothing: no text, or zero. -/
def isNothing (cs : Octets) : Bool :=
  cs.isEmpty || (let digits := if cs.head? == some '-' then cs.drop 1 else cs
    !digits.isEmpty && digits.all (· == '0'))

/-- What has been read of an expression: the words behind, and the one
before. -/
structure Progress where
  rest : List Octets
  before : Octets

/-- Reading an expression as an action on what is left. -/
abbrev Reading := StateT Progress (Except Fault)

/-- Go on if the next word is a given one. -/
def accept (word : String) : Reading Bool := do
  let p ← get
  match p.rest with
  | w :: rest =>
    if w = word.toList then
      set { p with rest, before := w }
      return true
    else return false
  | [] => return false

def next : Reading Octets := do
  let p ← get
  match p.rest with
  | w :: rest =>
    set (⟨rest, w⟩ : Progress)
    return w
  | [] => throw (.missingBehind p.before)

def numberOf (cs : Octets) : Reading Int :=
  match number? cs with
  | some n => pure n
  | none => throw .noNumber

/-- What a pattern at the start of a text matches: its group, or how long the
match is. -/
def matched (text pattern : Octets) : Reading Octets := do
  match Regex.read {} pattern with
  | .error e => throw (.badPattern e.text)
  | .ok parsed =>
    let found := (Regex.subject parsed.expression text).findAt? 0
    if 0 < parsed.groups then
      return (found.bind fun f => f.group? text 1).getD []
    else return Octets.ofNat ((found.map (·.finish)).getD 0)

/-- How two values compare: as numbers if both are some, else as texts. -/
def compared (a b : Octets) : Ordering :=
  match number? a, number? b with
  | some m, some n => compare m n
  | _, _ => compare a b

def comparisons : List (String × (Ordering → Bool)) := [
  ("<=", fun o => o != .gt), ("<", fun o => o == .lt), ("==", fun o => o == .eq),
  ("=", fun o => o == .eq), ("!=", fun o => o != .eq), (">=", fun o => o != .lt),
  (">", fun o => o == .gt)]

/-- Go on from a value as long as a step finds a sign that does so. -/
def chained (step : Octets → Reading (Option Octets)) : (fuel : Nat) → Octets → Reading Octets
  | 0, value => pure value
  | fuel + 1, value => do
    match ← step value with
    | some value => chained step fuel value
    | none => return value

def calculate (a b : Octets) (operation : Int → Int → Int) : Reading (Option Octets) := do
  return some (Octets.ofInt (operation (← numberOf a) (← numberOf b)))

def divide (a b : Octets) (operation : Int → Int → Int) : Reading (Option Octets) := do
  let m ← numberOf a
  let n ← numberOf b
  if n = 0 then throw .divisionByZero
  return some (Octets.ofInt (operation m n))

mutual

/-- Values of which the first that is something counts. -/
def disjunction : (fuel : Nat) → Reading Octets
  | 0 => pure []
  | fuel + 1 => do
    chained (fun value => do
      if ← accept "|" then
        let other ← conjunction fuel
        return some (if !isNothing value then value else if isNothing other then ['0'] else other)
      else return none) fuel (← conjunction fuel)
termination_by structural fuel => fuel

def conjunction : (fuel : Nat) → Reading Octets
  | 0 => pure []
  | fuel + 1 => do
    chained (fun value => do
      if ← accept "&" then
        let other ← relation fuel
        return some (if isNothing value || isNothing other then ['0'] else value)
      else return none) fuel (← relation fuel)
termination_by structural fuel => fuel

def relation : (fuel : Nat) → Reading Octets
  | 0 => pure []
  | fuel + 1 => do
    chained (fun value => do
      match ← comparisons.findM? fun (sign, _) => accept sign with
      | some (_, test) =>
        let other ← sum fuel
        return some (if test (compared value other) then ['1'] else ['0'])
      | none => return none) fuel (← sum fuel)
termination_by structural fuel => fuel

def sum : (fuel : Nat) → Reading Octets
  | 0 => pure []
  | fuel + 1 => do
    chained (fun value => do
      if ← accept "+" then calculate value (← product fuel) (· + ·)
      else if ← accept "-" then calculate value (← product fuel) (· - ·)
      else return none) fuel (← product fuel)
termination_by structural fuel => fuel

def product : (fuel : Nat) → Reading Octets
  | 0 => pure []
  | fuel + 1 => do
    chained (fun value => do
      if ← accept "*" then calculate value (← comparisonWithPattern fuel) (· * ·)
      else if ← accept "/" then divide value (← comparisonWithPattern fuel) Int.tdiv
      else if ← accept "%" then divide value (← comparisonWithPattern fuel) Int.tmod
      else return none) fuel (← comparisonWithPattern fuel)
termination_by structural fuel => fuel

def comparisonWithPattern : (fuel : Nat) → Reading Octets
  | 0 => pure []
  | fuel + 1 => do
    chained (fun value => do
      if ← accept ":" then return some (← matched value (← function fuel))
      else return none) fuel (← function fuel)
termination_by structural fuel => fuel

/-- A value that the name of a function stands in front of. -/
def function : (fuel : Nat) → Reading Octets
  | 0 => pure []
  | fuel + 1 => do
    if ← accept "+" then next
    else if ← accept "length" then return Octets.ofNat (← function fuel).length
    else if ← accept "match" then
      let text ← function fuel
      matched text (← function fuel)
    else if ← accept "index" then
      let text ← function fuel
      let letters ← function fuel
      let place := (text.takeWhile fun c => !letters.contains c).length
      return Octets.ofNat (if place < text.length then place + 1 else 0)
    else if ← accept "substr" then
      let text ← function fuel
      let start ← function fuel
      let size ← function fuel
      match number? start, number? size with
      | some i, some n =>
        if i ≤ 0 || n ≤ 0 then return []
        else return (text.drop (i - 1).toNat).take n.toNat
      | _, _ => return []
    else if ← accept "(" then
      let value ← disjunction fuel
      if ← accept ")" then return value
      else
        match (← get).rest with
        | w :: _ => throw (.unexpected w)
        | [] => throw (.unclosed (← get).before)
    else if (← get).rest.head? == some [')'] then throw (.unclosed [')'])
    else next
termination_by structural fuel => fuel

end

def expr (_ : Launcher) (args : List Octets) : Run Nat := do
  let args := if args.head? == some "--".toList then args.tail else args
  if args.isEmpty then missingOperand 2
  let outcome := do
    let (value, p) ← (disjunction (16 * args.length + 32)).run ⟨args, []⟩
    match p.rest with
    | w :: _ => throw (.unexpected w)
    | [] => return value
  match (outcome : Except Fault Octets) with
  | .error e => refuse 2 e.text
  | .ok value =>
    putLine value
    return if isNothing value then 1 else 0

/-! ## Conditions -/

/-- What is wrong with a condition. -/
inductive Mistake where
  | missingBehind (word : Octets)
  | extra (word : Octets)
  | noNumber (word : Octets)
  | singleExpected (word : Octets)
  | doubleExpected (word : Octets)
  | unclosed

def Mistake.text : Mistake → Octets
  | missingBehind w => "missing argument after ".toList ++ Quote.text w
  | extra w => "extra argument ".toList ++ Quote.text w
  | noNumber w => "invalid integer ".toList ++ Quote.text w
  | singleExpected w => Quote.text w ++ ": unary operator expected".toList
  | doubleExpected w => Quote.text w ++ ": binary operator expected".toList
  | unclosed => "')' expected".toList

def single (p : State) (op operand : Octets) : Except Mistake Bool :=
  let name := String.ofList op
  if Condition.singles.contains name || name = "-N" then
    match Condition.singleHolds p name operand with
    | .ok holds => .ok holds
    | .error _ => .error (.noNumber operand)
  else .error (.singleExpected op)

/-- Whether a word is an operator about two operands. -/
def isDouble (w : Octets) : Bool := Condition.doubles.contains (String.ofList w) || w = "==".toList

def double (p : State) (a op b : Octets) : Except Mistake Bool :=
  let name := if op = "==".toList then "=" else String.ofList op
  match Condition.doubleHolds p name a b with
  | .ok holds => .ok holds
  | .error (.illegalNumber w) => .error (.noNumber w)
  | .error _ => .error (.doubleExpected op)

/-- A condition about one operand, or a text that must not be empty. -/
def singleOrText (p : State) (a : Octets) (rest : List Octets) :
    Except Mistake (Bool × List Octets) :=
  match rest with
  | b :: more =>
    if a.length = 2 && a.head? == some '-' && Condition.singles.contains (String.ofList a) then do
      return (← single p a b, more)
    else .ok (!a.isEmpty, rest)
  | [] => .ok (!a.isEmpty, [])

mutual

def anyHolds (p : State) : (fuel : Nat) → List Octets → Except Mistake (Bool × List Octets)
  | 0, ws => .ok (false, ws)
  | fuel + 1, ws => do
    let (a, rest) ← allHold p fuel ws
    match rest with
    | op :: more =>
      if op = "-o".toList then
        let (b, rest) ← anyHolds p fuel more
        return (a || b, rest)
      else return (a, rest)
    | [] => return (a, [])
termination_by structural fuel => fuel

def allHold (p : State) : (fuel : Nat) → List Octets → Except Mistake (Bool × List Octets)
  | 0, ws => .ok (false, ws)
  | fuel + 1, ws => do
    let (a, rest) ← term p fuel ws
    match rest with
    | op :: more =>
      if op = "-a".toList then
        let (b, rest) ← allHold p fuel more
        return (a && b, rest)
      else return (a, rest)
    | [] => return (a, [])
termination_by structural fuel => fuel

def term (p : State) : (fuel : Nat) → List Octets → Except Mistake (Bool × List Octets)
  | 0, ws => .ok (false, ws)
  | fuel + 1, ws =>
    match ws with
    | ['!'] :: rest => do
      if rest.isEmpty then throw (.missingBehind ['!'])
      let (a, rest) ← term p fuel rest
      return (!a, rest)
    | ['('] :: rest => do
      if rest.isEmpty then throw (.missingBehind ['('])
      let (a, rest) ← anyHolds p fuel rest
      match rest with
      | [')'] :: rest => return (a, rest)
      | _ => throw .unclosed
    | a :: op :: b :: rest =>
      if isDouble op then do return (← double p a op b, rest)
      else singleOrText p a (op :: b :: rest)
    | a :: rest => singleOrText p a rest
    | [] => .ok (false, [])
termination_by structural fuel => fuel

end

/-- Whether a condition holds. How many words there are decides what they
mean, up to four of them. -/
def holds (p : State) : (fuel : Nat) → List Octets → Except Mistake Bool
  | 0, _ => .ok false
  | fuel + 1, ws =>
    let whole : Except Mistake Bool := do
      let (a, rest) ← anyHolds p (4 * ws.length + 8) ws
      match rest with
      | w :: _ => throw (.extra w)
      | [] => return a
    match ws with
    | [] => .ok false
    | [a] => .ok (!a.isEmpty)
    | [a, b] =>
      if a = ['!'] then .ok b.isEmpty
      else if a.length = 2 && a.head? == some '-' then single p a b
      else .error (.missingBehind b)
    | [a, op, b] =>
      if isDouble op then double p a op b
      else if a = ['!'] then (holds p fuel [op, b]).map not
      else if a = ['('] && b = [')'] then .ok (!op.isEmpty)
      else if op = "-a".toList then .ok (!a.isEmpty && !b.isEmpty)
      else if op = "-o".toList then .ok (!a.isEmpty || !b.isEmpty)
      else .error (.doubleExpected op)
    | [a, b, c, d] =>
      if a = ['!'] then (holds p fuel [b, c, d]).map not
      else if a = ['('] && d = [')'] then holds p fuel [b, c]
      else whole
    | _ => whole

def test (_ : Launcher) (args : List Octets) : Run Nat := do
  match holds (← get) (args.length + 1) args with
  | .ok holds => return if holds then 0 else 1
  | .error e => refuse 2 e.text

/-- Tell whether a condition in brackets holds. -/
def bracket (launch : Launcher) (args : List Octets) : Run Nat := do
  if args.getLast? == some [']'] then test launch args.dropLast
  else refuse 2 "missing ']'".toList

end BoardRig.Toolbox.Expression
