/-
Conditions on texts, numbers and files.

A condition is a list of words. A word is an operator if something stands
where its operands have to be; else it is an operand. Which operators there
are, and how they bind, does not depend on who asks; what is said about
mistakes does.
-/
import BoardRig.Shell.Control

namespace BoardRig.Shell.Condition

/-- An operator by what it does. -/
inductive Operator where
  /-- About one operand. -/
  | single (name : String)
  /-- About two operands. -/
  | double (name : String)
  | negation
  | both
  | either
  | openParenthesis
  | closeParenthesis
deriving DecidableEq, Repr

def singles : List String := [
  "-r", "-w", "-x", "-e", "-f", "-d", "-c", "-b", "-p", "-u", "-g", "-k", "-s", "-t", "-z", "-n",
  "-h", "-O", "-G", "-L", "-S"]

/-- The operators about two operands. -/
def doubles : List String := [
  "=", "!=", "<", ">", "-eq", "-ne", "-gt", "-ge", "-lt", "-le", "-nt", "-ot", "-ef"]

def operator? (cs : Octets) : Option Operator :=
  let text := String.ofList cs
  if singles.contains text then some (.single text)
  else if doubles.contains text then some (.double text)
  else
    match text with
    | "!" => some .negation
    | "-a" => some .both
    | "-o" => some .either
    | "(" => some .openParenthesis
    | ")" => some .closeParenthesis
    | _ => none

/-- Whether an operator stands between two operands. -/
def isDouble : Option Operator → Bool
  | some (.double _) => true
  | _ => false

/-- What a word is where it stands. -/
inductive Token where
  | endOfWords
  | operand
  | operator (op : Operator)
deriving DecidableEq, Repr

def token : List Octets → Token
  | [] => .endOfWords
  | w :: rest =>
    match operator? w with
    | none => .operand
    | some op =>
      let isOperand := match op with
        | .single _ =>
          match rest with
          | [] => true
          | [_] => false
          | next :: _ :: _ => isDouble (operator? next)
        | .openParenthesis => rest.isEmpty
        | _ => false
      if isOperand then .operand else .operator op

/-- What is wrong with a condition. -/
inductive Fault where
  | argumentExpected (operator : Octets)
  | unexpectedOperator (word : Octets)
  | parenthesisExpected
  | illegalNumber (word : Octets)
deriving DecidableEq, Repr

def Fault.text : Fault → Octets
  | argumentExpected op => op ++ ": argument expected".toList
  | unexpectedOperator w => (if w.isEmpty then [] else w ++ [':', ' ']) ++ "unexpected operator".toList
  | parenthesisExpected => "closing paren expected".toList
  | illegalNumber w => "Illegal number: ".toList ++ w

/-- A whole number with a sign, between blanks. -/
def number (cs : Octets) : Except Fault Int :=
  let isGap (c : Char) : Bool := c == ' ' || ('\t' ≤ c && c ≤ '\r')
  let inner := cs.dropWhile isGap
  let (negative, digits) := match inner with
    | '-' :: rest => (true, rest)
    | '+' :: rest => (false, rest)
    | rest => (false, rest)
  let (n, rest) := Octets.leadingNat digits
  if (digits.head?.any Char.isDigit) && rest.all isGap && n < Nat.pow 2 63 then
    .ok (if negative then -(n : Int) else n)
  else .error (.illegalNumber cs)

/-! ## Files -/

/-- What the node at a path is, where a link at its end may stand for itself. -/
def nodeAt (p : State) (follow : Bool) (cs : Octets) : Option (Nat × Node) := do
  let path := p.pathOf cs
  let id ← (if follow then p.files.find path else p.files.findName path).toOption
  return (id, ← p.files.node? id)

/-- The node behind a path that may be a descriptor of the process. -/
def contentAt (p : State) (cs : Octets) : Option Content := do
  let (_, node) ← nodeAt p true cs
  match node.content with
  | .device (.descriptor n) =>
    let (_, f) ← p.openFileOf? n
    match f.target with
    | .node id => p.files.content? id
    | .pipe _ => none
  | content => some content

def fileHolds (p : State) (op : String) (cs : Octets) : Bool :=
  match op with
  | "-h" | "-L" => (nodeAt p false cs).any fun n => (n.2.content matches .link _)
  | op =>
    match nodeAt p true cs with
    | none => false
    | some (_, node) =>
      let content := (contentAt p cs).getD node.content
      match op with
      | "-x" => node.isExecutable
      | "-f" => (content matches .file _ | .program _)
      | "-d" => (content matches .directory _)
      | "-c" => (content matches .device _)
      | "-b" | "-S" => false
      | "-p" => (contentAt p cs).isNone
      | "-u" => node.mode &&& 0o4000 != 0
      | "-g" => node.mode &&& 0o2000 != 0
      | "-k" => node.mode &&& 0o1000 != 0
      | "-s" =>
        match content with
        | .file bytes => !bytes.isEmpty
        | .program _ | .directory _ => true
        | _ => false
      | _ => true

def filesHold (p : State) (op : String) (a b : Octets) : Bool :=
  match nodeAt p true a, nodeAt p true b with
  | some (i, m), some (j, n) =>
    match op with
    | "-nt" => n.modified < m.modified
    | "-ot" => m.modified < n.modified
    | _ => i == j
  | _, _ => false

/-- Whether an operator about one operand holds. -/
def singleHolds (p : State) (op : String) (w : Octets) : Except Fault Bool :=
  match op with
  | "-z" => .ok w.isEmpty
  | "-n" => .ok (!w.isEmpty)
  | "-t" => do
    let _ ← number w
    return false
  | op => .ok (fileHolds p op w)

/-- Whether an operator about two operands holds. -/
def doubleHolds (p : State) (op : String) (a b : Octets) : Except Fault Bool :=
  let compared (test : Int → Int → Bool) : Except Fault Bool := do
    return test (← number a) (← number b)
  match op with
  | "=" => .ok (a == b)
  | "!=" => .ok (a != b)
  | "<" => .ok (decide (a < b))
  | ">" => .ok (decide (b < a))
  | "-eq" => compared fun m n => m == n
  | "-ne" => compared fun m n => m != n
  | "-gt" => compared fun m n => n < m
  | "-ge" => compared fun m n => n ≤ m
  | "-lt" => compared fun m n => m < n
  | "-le" => compared fun m n => m ≤ n
  | op => .ok (filesHold p op a b)

/-! ## Conditions

Each of these looks at the word in front of the list it is given, and yields
the words from the last one on that belongs to the condition. -/

mutual

def disjunction (p : State) : (fuel : Nat) → Token → List Octets →
    Except Fault (Bool × List Octets)
  | 0, _, ws => .ok (false, ws)
  | fuel + 1, t, ws => do
    let (a, ws) ← conjunction p fuel t ws
    match token ws.tail with
    | .operator .either =>
      let ws := ws.drop 2
      let (b, ws) ← disjunction p fuel (token ws) ws
      return (a || b, ws)
    | _ => return (a, ws)
termination_by structural fuel => fuel

def conjunction (p : State) : (fuel : Nat) → Token → List Octets →
    Except Fault (Bool × List Octets)
  | 0, _, ws => .ok (false, ws)
  | fuel + 1, t, ws => do
    let (a, ws) ← negated p fuel t ws
    match token ws.tail with
    | .operator .both =>
      let ws := ws.drop 2
      let (b, ws) ← conjunction p fuel (token ws) ws
      return (a && b, ws)
    | _ => return (a, ws)
termination_by structural fuel => fuel

/-- A condition behind signs that turn it round. -/
def negated (p : State) : (fuel : Nat) → Token → List Octets →
    Except Fault (Bool × List Octets)
  | 0, _, ws => .ok (false, ws)
  | fuel + 1, t, ws =>
    match t with
    | .operator .negation => do
      let next := token ws.tail
      let (a, ws) ← negated p fuel next (if next = .endOfWords then ws else ws.tail)
      return (!a, ws)
    | t => primary p fuel t ws
termination_by structural fuel => fuel

/-- A condition without others inside, or one in parentheses. -/
def primary (p : State) : (fuel : Nat) → Token → List Octets →
    Except Fault (Bool × List Octets)
  | 0, _, ws => .ok (false, ws)
  | fuel + 1, t, ws =>
    match t with
    | .endOfWords => .ok (false, ws)
    | .operator .openParenthesis => do
      let ws := ws.tail
      if token ws = .operator .closeParenthesis then return (false, ws)
      let (a, ws) ← disjunction p fuel (token ws) ws
      if token ws.tail = .operator .closeParenthesis then return (a, ws.tail)
      else throw .parenthesisExpected
    | .operator (.single op) =>
      match ws.tail with
      | [] => .error (.argumentExpected op.toList)
      | w :: rest => do return (← singleHolds p op w, w :: rest)
    | _ =>
      match ws with
      | a :: op :: rest =>
        match token (op :: rest) with
        | .operator (.double name) =>
          match rest with
          | [] => .error (.argumentExpected op)
          | b :: rest => do return (← doubleHolds p name a b, b :: rest)
        | _ => .ok (!a.isEmpty, ws)
      | [a] => .ok (!a.isEmpty, ws)
      | [] => .ok (false, [])
termination_by structural fuel => fuel

end

/-- Whether a whole condition holds, where the signs that turn it round are
looked for first if there are three or four words. -/
def holdsFrom (p : State) : (fuel : Nat) → List Octets → Except Fault Bool
  | 0, _ => .ok false
  | fuel + 1, ws =>
    let evaluated (t : Token) (ws : List Octets) : Except Fault Bool := do
      let (a, rest) ← disjunction p (4 * ws.length + 8) t ws
      match rest with
      | w :: _ :: _ => throw (.unexpectedOperator w)
      | _ => return a
    let shortened : Except Fault Bool :=
      if ws.head? == some ['('] && ws.getLast? == some [')'] then
        let inner := (ws.drop 1).dropLast
        evaluated (token inner) inner
      else if ws.head? == some ['!'] then
        (holdsFrom p fuel ws.tail).map not
      else evaluated (token ws) ws
    match ws with
    | [] => .ok false
    | [_, op, _] => if isDouble (operator? op) then evaluated .operand ws else shortened
    | [_, _, _, _] => shortened
    | ws => evaluated (token ws) ws

def holds (p : State) (ws : List Octets) : Except Fault Bool :=
  holdsFrom p (ws.length + 1) ws

end BoardRig.Shell.Condition
