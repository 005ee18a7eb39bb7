/-
The expressions of shell arithmetic.

Numbers have 64 bits. A numeral is decimal, octal behind a zero, or in base
sixteen behind `0x`. A name stands for the number that its variable holds. A
part whose value does not matter is read without being carried out.
-/
import BoardRig.Shell.Printf
import BoardRig.Shell.Syntax

namespace BoardRig.Shell.Arithmetic

open Decimal

/-- An operator of two numbers. -/
inductive Operator where
  | multiply | divide | remainder | add | subtract | shiftLeft | shiftRight
  | less | lessEqual | greater | greaterEqual | equal | different | bitAnd | bitXor | bitOr
deriving DecidableEq, Repr

namespace Operator

/-- How loosely an operator binds. -/
def rank : Operator → Nat
  | multiply | divide | remainder => 0
  | add | subtract => 1
  | shiftLeft | shiftRight => 2
  | less | lessEqual | greater | greaterEqual => 3
  | equal | different => 4
  | bitAnd => 5
  | bitXor => 6
  | bitOr => 7

/-- Looser than every operator. -/
def loosest : Nat := 8

/-- The operators as they are written; one that begins with another comes
first. -/
def signs : List (List Char × Operator) := [
  (['=', '='], equal), (['!', '='], different), (['<', '<'], shiftLeft), (['>', '>'], shiftRight),
  (['<', '='], lessEqual), (['>', '='], greaterEqual), (['<'], less), (['>'], greater),
  (['*'], multiply), (['/'], divide), (['%'], remainder), (['+'], add), (['-'], subtract),
  (['&'], bitAnd), (['^'], bitXor), (['|'], bitOr)]

/-- Whether an operator can be joined with an assignment. -/
def assigns : Operator → Bool
  | less | lessEqual | greater | greaterEqual | equal | different => false
  | _ => true

def truth (b : Bool) : Int := if b then 1 else 0

def wrapped (n : Int) : Int := Int.bmod n (Nat.pow 2 64)

/-- The bits of a number as a natural one. -/
def bits (n : Int) : Nat := (n % (Nat.pow 2 64)).toNat

/-- What an operator makes of two numbers; nothing from a division by zero. -/
def apply (op : Operator) (a b : Int) : Option Int :=
  match op with
  | multiply => some (wrapped (a * b))
  | divide => if b = 0 then none else some (wrapped (Int.tdiv a b))
  | remainder => if b = 0 then none else some (Int.tmod a b)
  | add => some (wrapped (a + b))
  | subtract => some (wrapped (a - b))
  | shiftLeft => some (wrapped (a * Nat.pow 2 (bits b % 64)))
  | shiftRight => some (a / Nat.pow 2 (bits b % 64))
  | less => some (truth (a < b))
  | lessEqual => some (truth (a ≤ b))
  | greater => some (truth (b < a))
  | greaterEqual => some (truth (b ≤ a))
  | equal => some (truth (a == b))
  | different => some (truth (a != b))
  | bitAnd => some (wrapped (bits a &&& bits b))
  | bitXor => some (wrapped (bits a ^^^ bits b))
  | bitOr => some (wrapped (bits a ||| bits b))

end Operator

/-- A token of an expression. -/
inductive Token where
  | endOfText
  | bad
  | number (n : Int)
  | name (name : String)
  | operator (op : Operator)
  | assign (op : Option Operator)
  | negation
  | complement
  | both
  | either
  | question
  | colon
  | openParenthesis
  | closeParenthesis
deriving DecidableEq, Repr

/-- Why an expression has no value. -/
inductive Fault where
  /-- The expression itself is at fault. -/
  | expression (text : String)
  /-- A variable holds no number. -/
  | number (text : Octets)
  | tooDeep
deriving DecidableEq, Repr

/-- An expression while it is read. -/
structure Source where
  rest : Octets
  /-- The token that was read last. -/
  last : Token := .endOfText
  /-- The variables before the expression. -/
  lookup : String → Option Octets
  /-- What was assigned, the latest first. -/
  assigned : List (String × Octets) := []

abbrev Scan (α : Type) := StateT Source (Except Fault) α

def lex (cs : Octets) : Token × Octets :=
  let cs := cs.dropWhile fun c => c == ' ' || c == '\t' || c == '\n'
  match cs with
  | [] => (.endOfText, [])
  | c :: rest =>
    if c.isDigit then
      let (n, rest) := Printf.readInt cs
      (.number (Printf.clampSigned n), rest)
    else if beginsName c then
      let name := cs.takeWhile isInName
      (.name (String.ofList name), cs.drop name.length)
    else if ['&', '&'].isPrefixOf cs then (.both, cs.drop 2)
    else if ['|', '|'].isPrefixOf cs then (.either, cs.drop 2)
    else
      match Operator.signs.find? fun (sign, _) => sign.isPrefixOf cs with
      | some (sign, op) =>
        match op.assigns, cs.drop sign.length with
        | true, '=' :: rest => (.assign (some op), rest)
        | _, rest => (.operator op, rest)
      | none =>
        match c with
        | '=' => (.assign none, rest)
        | '!' => (.negation, rest)
        | '~' => (.complement, rest)
        | '?' => (.question, rest)
        | ':' => (.colon, rest)
        | '(' => (.openParenthesis, rest)
        | ')' => (.closeParenthesis, rest)
        | _ => (.bad, cs)

def next : Scan Token := do
  let s ← get
  let (t, rest) := lex s.rest
  set { s with rest }
  return t

/-- Note the token that follows what was read. -/
def follow (t : Token) : Scan Unit := modify ({ · with last := t })

/-- The number that a text holds for arithmetic; an empty one is a zero. -/
def numberOf (cs : Octets) : Except Fault Int :=
  let (n, rest) := Printf.readInt cs
  if rest = cs then
    if cs.all Number.isGap then .ok 0 else .error (.number cs)
  else if rest.all Number.isGap && Printf.clampSigned n == n then .ok n
  else .error (.number cs)

def valueOf (name : String) : Scan Int := do
  let s ← get
  numberOf (((s.assigned.lookup name).or (s.lookup name)).getD [])

/-- What an operator makes of two numbers. -/
def applied (op : Operator) (a b : Int) : Scan Int :=
  match op.apply a b with
  | some n => pure n
  | none => throw (.expression "division by zero")

mutual

/-- An operand that begins with a token; the one behind it has been read. -/
def primary (idle : Bool) : (fuel : Nat) → Token → Token → Scan Int
  | 0, _, _ => throw .tooDeep
  | fuel + 1, t, behind =>
    match t with
    | .openParenthesis => do
      let n ← assignment idle fuel behind
      if (← get).last ≠ .closeParenthesis then throw (.expression "expecting ')'")
      follow (← next)
      return n
    | .number n => do follow behind; return n
    | .name name => do
      follow behind
      if idle then return 0 else valueOf name
    | .operator .add => do primary idle fuel behind (← next)
    | .operator .subtract => do return Operator.wrapped (-(← primary idle fuel behind (← next)))
    | .negation => do return Operator.truth ((← primary idle fuel behind (← next)) == 0)
    | .complement => do return -(← primary idle fuel behind (← next)) - 1
    | _ => throw (.expression "expecting primary")
termination_by structural fuel => fuel

/-- Operators from a given one on, as long as they bind more tightly than some
rank. -/
def climb (idle : Bool) : (fuel rank : Nat) → Int → Operator → Scan Int
  | 0, _, _, _ => throw .tooDeep
  | fuel + 1, rank, a, op => do
    let t ← next
    let b ← primary idle fuel t (← next)
    let b ← match (← get).last with
      | .operator following =>
        if following.rank < op.rank then climb idle fuel op.rank b following else pure b
      | _ => pure b
    let a ← if idle then pure b else applied op a b
    match (← get).last with
    | .operator following =>
      if rank ≤ following.rank then return a else climb idle fuel rank a following
    | _ => return a
termination_by structural fuel => fuel

def operation (idle : Bool) : (fuel : Nat) → Token → Token → Scan Int
  | 0, _, _ => throw .tooDeep
  | fuel + 1, t, behind => do
    let a ← primary idle fuel t behind
    match (← get).last with
    | .operator op => climb idle fuel Operator.loosest a op
    | _ => return a
termination_by structural fuel => fuel

/-- Operations of which all must hold. -/
def conjunction (idle : Bool) : (fuel : Nat) → Token → Token → Scan Int
  | 0, _, _ => throw .tooDeep
  | fuel + 1, t, behind => do
    let a ← operation idle fuel t behind
    if (← get).last ≠ .both then return a
    let t ← next
    let b ← conjunction (idle || a == 0) fuel t (← next)
    return Operator.truth (a != 0 && b != 0)
termination_by structural fuel => fuel

def disjunction (idle : Bool) : (fuel : Nat) → Token → Token → Scan Int
  | 0, _, _ => throw .tooDeep
  | fuel + 1, t, behind => do
    let a ← conjunction idle fuel t behind
    if (← get).last ≠ .either then return a
    let t ← next
    let b ← disjunction (idle || a != 0) fuel t (← next)
    return Operator.truth (a != 0 || b != 0)
termination_by structural fuel => fuel

def choice (idle : Bool) : (fuel : Nat) → Token → Token → Scan Int
  | 0, _, _ => throw .tooDeep
  | fuel + 1, t, behind => do
    let a ← disjunction idle fuel t behind
    if (← get).last ≠ .question then return a
    let yes ← assignment (idle || a == 0) fuel (← next)
    if (← get).last ≠ .colon then throw (.expression "expecting ':'")
    let t ← next
    let no ← choice (idle || a != 0) fuel t (← next)
    return if a != 0 then yes else no
termination_by structural fuel => fuel

def assignment (idle : Bool) : (fuel : Nat) → Token → Scan Int
  | 0, _ => throw .tooDeep
  | fuel + 1, t => do
    let behind ← next
    match t, behind with
    | .name name, .assign op => do
      let n ← assignment idle fuel (← next)
      if idle then return n
      let n ← match op with
        | some op => do applied op (← valueOf name) n
        | none => pure n
      modify fun s => { s with assigned := (name, Octets.ofInt n) :: s.assigned }
      return n
    | t, behind => choice idle fuel t behind
termination_by structural fuel => fuel

end

def expression (fuel : Nat) : Scan Int := do
  let n ← assignment false fuel (← next)
  if (← get).last ≠ .endOfText then throw (.expression "expecting EOF")
  return n

/-- The value of an expression, and what it assigns, the first assignment
first. -/
def evaluate (lookup : String → Option Octets) (cs : Octets) :
    Except Fault (Int × List (String × Octets)) :=
  match (expression (16 * cs.length + 64)).run { rest := cs, lookup } with
  | .ok (n, s) => .ok (n, s.assigned.reverse)
  | .error e => .error e

end BoardRig.Shell.Arithmetic
