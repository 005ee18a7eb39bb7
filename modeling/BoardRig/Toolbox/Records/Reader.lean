/-
Reading programs that act on records.

Operators bind in the usual order; one value behind another joins them. In
what is printed a sign for more is where the output goes, unless it stands in
parentheses.
-/
import BoardRig.Regex.Reader
import BoardRig.Toolbox.Records.Token
import BoardRig.Toolbox.Records.Value

namespace BoardRig.Toolbox.Records

open Shell

/-- What is wrong with a program: a text and a line. -/
structure Fault where
  text : Octets
  line : Nat

/-- What has been read of a program. -/
structure Progress where
  rest : List (Token × Nat)
  line : Nat := 1
  /-- Whether a sign for more is where output goes. -/
  printing : Bool := false
  loops : Nat := 0
  inFunction : Bool := false
  /-- Whether a record is at hand that could be left. -/
  hasRecord : Bool := false
  braces : Nat := 0
  /-- The functions that are called, with how many arguments and where. -/
  calls : List (String × Nat × Nat) := []

abbrev Reading := StateT Progress (Except Fault)

/-- How expressions are written here. -/
def dialect : Regex.Dialect :=
  { extended := true, bracketEscapes := true, controls := true, words := false }

namespace Reading

def peek : Reading (Option Token) := return (← get).rest.head?.map (·.1)

def skip : Reading Unit := modify fun p => match p.rest with
  | (_, line) :: rest => { p with rest, line }
  | [] => p

def failWith {α : Type} (text : Octets) : Reading α := do
  let p ← get
  throw ⟨text, ((p.rest.head?).map (·.2)).getD p.line⟩

def unexpected {α : Type} : Reading α := do
  match (← get).rest with
  | (t, _) :: _ => failWith ("syntax error at or near ".toList ++ t.shown)
  | [] =>
    let p ← get
    throw ⟨(if 0 < p.braces then "missing \x7d near end of file"
      else "syntax error at or near end of file").toList, p.line + 1⟩

def isSign (s : String) : Reading Bool := return (← peek) == some (.sign s)

def isKeyword (w : String) : Reading Bool := return (← peek) == some (.keyword w)

def accept (s : String) : Reading Bool := do
  if ← isSign s then
    skip
    return true
  else return false

def expect (s : String) : Reading Unit := do
  if !(← accept s) then unexpected

def newlines : Reading Unit := modify fun p =>
  { p with rest := p.rest.dropWhile (·.1 == .newline) }

/-- Take the ends of lines and statements. -/
def separators : Reading Unit := modify fun p =>
  { p with rest := p.rest.dropWhile fun (t, _) => t == .newline || t == .sign ";" }

/-- Read with a part of the state changed, which is put back behind it. -/
def withPrinting {α : Type} (printing : Bool) (act : Reading α) : Reading α := do
  let before := (← get).printing
  modify fun p => { p with printing }
  let a ← act
  modify fun p => { p with printing := before }
  return a

def name : Reading String := do
  match ← peek with
  | some (.name n) => do skip; return n
  | _ => unexpected

end Reading

open Records.Reading

/-- Whether something can be assigned to an expression. -/
def Expression.isTarget : Expression → Bool
  | .variable _ | .element _ _ | .field _ => true
  | _ => false

/-- The operators that assign what is computed. -/
def updates : List (String × Arithmetic) := [
  ("+=", .sum), ("-=", .difference), ("*=", .product), ("/=", .quotient), ("%=", .remainder),
  ("^=", .power)]

def comparisons : List (String × Comparison) := [
  ("<", .less), ("<=", .atMost), ("==", .equal), ("!=", .unequal), (">", .greater),
  (">=", .atLeast)]

/-- Whether a word can begin a value that is joined to the one before. -/
def beginsJoined : Token → Bool
  | .number _ _ | .text _ | .pattern _ | .name _ | .function _ | .builtin _ _ => true
  | .sign s => ["$", "!", "(", "-", "+", "++", "--"].contains s
  | _ => false

mutual

def expression : (fuel : Nat) → Reading Expression
  | 0 => unexpected
  | fuel + 1 => do
    let condition ← disjunction fuel
    if ← accept "?" then
      newlines
      let a ← expression fuel
      newlines
      expect ":"
      newlines
      let b ← expression fuel
      return .choice condition a b
    else return condition
termination_by structural fuel => fuel

def disjunction : (fuel : Nat) → Reading Expression
  | 0 => unexpected
  | fuel + 1 => do
    let first ← conjunction fuel
    disjunctionBehind fuel first
termination_by structural fuel => fuel

/-- What may stand behind a value of which one has to hold. -/
def disjunctionBehind : (fuel : Nat) → Expression → Reading Expression
  | 0, a => return a
  | fuel + 1, a => do
    if ← accept "||" then
      newlines
      let b ← conjunction fuel
      disjunctionBehind fuel (.either a b)
    else return a
termination_by structural fuel => fuel

def conjunction : (fuel : Nat) → Reading Expression
  | 0 => unexpected
  | fuel + 1 => do
    let first ← membership fuel
    conjunctionBehind fuel first
termination_by structural fuel => fuel

/-- What may stand behind a value that has to hold with others. -/
def conjunctionBehind : (fuel : Nat) → Expression → Reading Expression
  | 0, a => return a
  | fuel + 1, a => do
    if ← accept "&&" then
      newlines
      let b ← membership fuel
      conjunctionBehind fuel (.both a b)
    else return a
termination_by structural fuel => fuel

/-- Whether something is an index of an array. -/
def membership : (fuel : Nat) → Reading Expression
  | 0 => unexpected
  | fuel + 1 => do
    let first ← fitting fuel
    membershipBehind fuel first
termination_by structural fuel => fuel

def membershipBehind : (fuel : Nat) → Expression → Reading Expression
  | 0, a => return a
  | fuel + 1, a => do
    if ← isKeyword "in" then
      skip
      let array ← name
      let index := match a with
        | .group es => es
        | a => [a]
      membershipBehind fuel (.member index array)
    else return a
termination_by structural fuel => fuel

def fitting : (fuel : Nat) → Reading Expression
  | 0 => unexpected
  | fuel + 1 => do
    let first ← comparing fuel
    fittingBehind fuel first
termination_by structural fuel => fuel

/-- What may stand behind a text in which an expression may match. -/
def fittingBehind : (fuel : Nat) → Expression → Reading Expression
  | 0, a => return a
  | fuel + 1, a => do
    if ← accept "~" then
      let b ← comparing fuel
      fittingBehind fuel (.fits true a b)
    else if ← accept "!~" then
      let b ← comparing fuel
      fittingBehind fuel (.fits false a b)
    else return a
termination_by structural fuel => fuel

def comparing : (fuel : Nat) → Reading Expression
  | 0 => unexpected
  | fuel + 1 => do
    let first ← joining fuel
    comparingBehind fuel first
termination_by structural fuel => fuel

/-- What may stand behind a value that is compared. -/
def comparingBehind : (fuel : Nat) → Expression → Reading Expression
  | 0, a => return a
  | fuel + 1, a => do
    match ← peek with
    | some (.sign s) =>
      if (s == ">" || s == ">=") && (← get).printing then return a
      else
        match comparisons.lookup s with
        | some op =>
          skip
          let b ← joining fuel
          comparingBehind fuel (.comparison op a b)
        | none => return a
    | _ => return a
termination_by structural fuel => fuel

def joining : (fuel : Nat) → Reading Expression
  | 0 => unexpected
  | fuel + 1 => do
    let first ← adding fuel
    joiningBehind fuel first
termination_by structural fuel => fuel

/-- What may stand behind a value that is joined. -/
def joiningBehind : (fuel : Nat) → Expression → Reading Expression
  | 0, a => return a
  | fuel + 1, a => do
    if (← peek).any beginsJoined then
      let b ← adding fuel
      joiningBehind fuel (.joined a b)
    else return a
termination_by structural fuel => fuel

def adding : (fuel : Nat) → Reading Expression
  | 0 => unexpected
  | fuel + 1 => do
    let first ← multiplying fuel
    addingBehind fuel first
termination_by structural fuel => fuel

/-- What may stand behind a part of a sum. -/
def addingBehind : (fuel : Nat) → Expression → Reading Expression
  | 0, a => return a
  | fuel + 1, a => do
    if ← accept "+" then
      let b ← multiplying fuel
      addingBehind fuel (.arithmetic .sum a b)
    else if ← accept "-" then
      let b ← multiplying fuel
      addingBehind fuel (.arithmetic .difference a b)
    else return a
termination_by structural fuel => fuel

def multiplying : (fuel : Nat) → Reading Expression
  | 0 => unexpected
  | fuel + 1 => do
    let first ← signed fuel
    multiplyingBehind fuel first
termination_by structural fuel => fuel

/-- What may stand behind a part of a product. -/
def multiplyingBehind : (fuel : Nat) → Expression → Reading Expression
  | 0, a => return a
  | fuel + 1, a => do
    if ← accept "*" then
      let b ← signed fuel
      multiplyingBehind fuel (.arithmetic .product a b)
    else if ← accept "/" then
      let b ← signed fuel
      multiplyingBehind fuel (.arithmetic .quotient a b)
    else if ← accept "%" then
      let b ← signed fuel
      multiplyingBehind fuel (.arithmetic .remainder a b)
    else return a
termination_by structural fuel => fuel

def signed : (fuel : Nat) → Reading Expression
  | 0 => unexpected
  | fuel + 1 => do
    if ← accept "!" then return .opposite (← signed fuel)
    else if ← accept "-" then return .negative (← signed fuel)
    else if ← accept "+" then return .positive (← signed fuel)
    else
      let base ← piped fuel
      if ← accept "^" then return .arithmetic .power base (← signed fuel)
      else return base
termination_by structural fuel => fuel

/-- A value, or a line of what a command writes. -/
def piped : (fuel : Nat) → Reading Expression
  | 0 => unexpected
  | fuel + 1 => do
    let first ← assigned fuel
    pipedBehind fuel first
termination_by structural fuel => fuel

def pipedBehind : (fuel : Nat) → Expression → Reading Expression
  | 0, a => return a
  | fuel + 1, a => do
    match (← get).rest with
    | (.sign "|", _) :: (.keyword "getline", _) :: _ =>
      skip
      skip
      let target ← readTarget fuel
      pipedBehind fuel (.readCommand target a)
    | _ => return a
termination_by structural fuel => fuel

/-- A value, or something that is assigned or counted. -/
def assigned : (fuel : Nat) → Reading Expression
  | 0 => unexpected
  | fuel + 1 => do
    let a ← primary fuel
    if !a.isTarget then return a
    else if ← accept "++" then return .step true false a
    else if ← accept "--" then return .step false false a
    else if ← accept "=" then
      newlines
      return .assign a (← expression fuel)
    else
      match ← peek with
      | some (.sign s) =>
        match updates.lookup s with
        | some op =>
          skip
          newlines
          return .update op a (← expression fuel)
        | none => return a
      | _ => return a
termination_by structural fuel => fuel

def readTarget : (fuel : Nat) → Reading (Option Expression)
  | 0 => unexpected
  | fuel + 1 => do
    match ← peek with
    | some (.name _) | some (.sign "$") => return some (← primary fuel)
    | _ => return none
termination_by structural fuel => fuel

/-- The values between parentheses or brackets, behind the opening one. -/
def arguments (closing : String) : (fuel : Nat) → Reading (List Expression)
  | 0 => unexpected
  | fuel + 1 => do
    newlines
    if ← accept closing then return []
    else
      let a ← expression fuel
      newlines
      if ← accept "," then
        newlines
        if ← isSign closing then unexpected
        return a :: (← arguments closing fuel)
      else
        expect closing
        return [a]
termination_by structural fuel => fuel

def primary : (fuel : Nat) → Reading Expression
  | 0 => unexpected
  | fuel + 1 => do
    match ← peek with
    | none => unexpected
    | some (.number n _) => do skip; return .number (rounded n)
    | some (.text cs) => do skip; return .text cs
    | some (.pattern cs) =>
      match Regex.read dialect cs with
      | .ok parsed => do skip; return .pattern parsed.expression
      | .error _ => failWith ("regular expression compile failed\n".toList ++ cs)
    | some (.name n) =>
      skip
      if ← accept "[" then
        let index ← withPrinting false (arguments "]" fuel)
        if index.isEmpty then unexpected
        return .element n index
      else return .variable n
    | some (.function f) =>
      let line := (← get).line
      skip
      expect "("
      let args ← withPrinting false (arguments ")" fuel)
      modify fun p => { p with calls := (f, args.length, line) :: p.calls }
      return .call f args
    | some (.builtin f _) =>
      skip
      if ← accept "(" then
        let args ← withPrinting false (arguments ")" fuel)
        return .apply f args
      else if f = .length then return .apply f []
      else unexpected
    | some (.keyword "getline") =>
      skip
      let target ← readTarget fuel
      if ← accept "<" then return .readFile target (← primary fuel)
      else return .read target
    | some (.sign "$") =>
      skip
      if ← accept "++" then return .field (.step true true (← primary fuel))
      else if ← accept "--" then return .field (.step false true (← primary fuel))
      else if ← accept "-" then return .field (.negative (← primary fuel))
      else if ← accept "+" then return .field (.positive (← primary fuel))
      else return .field (← primary fuel)
    | some (.sign "++") => do skip; return .step true true (← primary fuel)
    | some (.sign "--") => do skip; return .step false true (← primary fuel)
    | some (.sign "(") =>
      skip
      let es ← withPrinting false (arguments ")" fuel)
      match es with
      | [] => unexpected
      | [e] =>
        -- What stands in parentheses is no target any more.
        return if e.isTarget then .group [e] else e
      | es => return .group es
    | some _ => unexpected
termination_by structural fuel => fuel

end

/-! ## Statements -/

/-- What is printed, up to where it goes or to its end. -/
def printed : (fuel : Nat) → Reading (List Expression)
  | 0 => unexpected
  | fuel + 1 => do
    match ← peek with
    | none | some .newline | some (.sign ";") | some (.sign "\x7d") | some (.sign ">")
    | some (.sign ">>") | some (.sign "|") => return []
    | _ =>
      let rec more : (count : Nat) → Expression → Reading (List Expression)
        | 0, e => return [e]
        | count + 1, e => do
          if ← accept "," then
            newlines
            let next ← expression fuel
            return e :: (← more count next)
          else return [e]
      let first ← expression fuel
      match ← more fuel first with
      | [.group es] => return es
      | es => return es

def direction (fuel : Nat) : Reading (Option (Direction × Expression)) := do
  let toward (d : Direction) : Reading (Option (Direction × Expression)) := do
    skip
    return some (d, ← joining fuel)
  match ← peek with
  | some (.sign ">") => toward .file
  | some (.sign ">>") => toward .append
  | some (.sign "|") => toward .command
  | _ => return none

def statementEnd : Reading Unit := do
  match ← peek with
  | some (.sign ";") | some .newline => skip
  | some (.sign "\x7d") | none => return
  | some _ => unexpected

def simple (fuel : Nat) : Reading Statement := do
  let ends : Reading Bool := do
    match ← peek with
    | none | some .newline | some (.sign ";") | some (.sign "\x7d") => return true
    | _ => return false
  match ← peek with
  | some (.keyword "print") =>
    skip
    let args ← withPrinting true (printed fuel)
    return .print args (← withPrinting true (direction fuel))
  | some (.keyword "printf") =>
    skip
    let args ← withPrinting true (printed fuel)
    if args.isEmpty then unexpected
    return .printFormat args (← withPrinting true (direction fuel))
  | some (.keyword "next") =>
    if !(← get).hasRecord then failWith "improper use of next".toList
    skip
    return .next
  | some (.keyword "nextfile") =>
    if !(← get).hasRecord then failWith "improper use of nextfile".toList
    skip
    return .nextFile
  | some (.keyword "exit") =>
    skip
    if ← ends then return .exit none
    return .exit (some (← expression fuel))
  | some (.keyword "return") =>
    if !(← get).inFunction then failWith "return outside function body".toList
    skip
    if ← ends then return .return none
    return .return (some (← expression fuel))
  | some (.keyword "break") =>
    if (← get).loops = 0 then failWith "break statement outside of loop".toList
    skip
    return .break
  | some (.keyword "continue") =>
    if (← get).loops = 0 then failWith "continue statement outside of loop".toList
    skip
    return .continue
  | some (.keyword "delete") =>
    skip
    let n ← name
    if ← accept "[" then
      return .delete n (some (← arguments "]" fuel))
    else return .delete n none
  | _ => return .expression (← expression fuel)

def inLoop {α : Type} (act : Reading α) : Reading α := do
  modify fun p => { p with loops := p.loops + 1 }
  let a ← act
  modify fun p => { p with loops := p.loops - 1 }
  return a

mutual

def statement : (fuel : Nat) → Reading Statement
  | 0 => unexpected
  | fuel + 1 => do
    match ← peek with
    | some (.sign "\x7b") => block fuel
    | some (.sign ";") => do skip; return .block []
    | some (.keyword "if") =>
      skip
      expect "("
      let c ← withPrinting false (expression fuel)
      newlines
      expect ")"
      newlines
      let a ← statement fuel
      let before ← get
      separators
      if ← isKeyword "else" then
        skip
        newlines
        return .choice c a (← statement fuel)
      else
        set before
        return .choice c a (.block [])
    | some (.keyword "while") =>
      skip
      expect "("
      let c ← expression fuel
      newlines
      expect ")"
      if ← accept ";" then return .whileLoop c (.block [])
      newlines
      return .whileLoop c (← inLoop (statement fuel))
    | some (.keyword "do") =>
      skip
      newlines
      let body ← inLoop (statement fuel)
      separators
      if !(← isKeyword "while") then unexpected
      skip
      expect "("
      let c ← expression fuel
      newlines
      expect ")"
      statementEnd
      return .untilLoop body c
    | some (.keyword "for") =>
      skip
      expect "("
      match (← get).rest with
      | (.name n, _) :: (.keyword "in", _) :: (.name array, _) :: (.sign ")", _) :: rest =>
        modify fun p => { p with rest }
        newlines
        return .forEach n array (← inLoop (statement fuel))
      | _ =>
        let start ← if ← isSign ";" then pure none else some <$> simple fuel
        expect ";"
        newlines
        let c ← if ← isSign ";" then pure none else some <$> expression fuel
        expect ";"
        newlines
        let next ← if ← isSign ")" then pure none else some <$> simple fuel
        newlines
        expect ")"
        if ← accept ";" then return .forLoop start c next (.block [])
        newlines
        return .forLoop start c next (← inLoop (statement fuel))
    | _ =>
      let s ← simple fuel
      statementEnd
      return s
termination_by structural fuel => fuel

def block : (fuel : Nat) → Reading Statement
  | 0 => unexpected
  | fuel + 1 => do
    expect "\x7b"
    modify fun p => { p with braces := p.braces + 1 }
    let body ← statements fuel
    expect "\x7d"
    modify fun p => { p with braces := p.braces - 1 }
    return .block body
termination_by structural fuel => fuel

/-- Statements up to a closing brace. -/
def statements : (fuel : Nat) → Reading (List Statement)
  | 0 => unexpected
  | fuel + 1 => do
    newlines
    match ← peek with
    | some (.sign "\x7d") => return []
    | some (.sign ";") => do skip; statements fuel
    | none => unexpected
    | some _ =>
      let s ← statement fuel
      return s :: (← statements fuel)
termination_by structural fuel => fuel

end

/-! ## Programs -/

def parameters : (fuel : Nat) → (before : List String) → Reading (List String)
  | 0, _ => unexpected
  | fuel + 1, before => do
    newlines
    if ← accept ")" then return before.reverse
    else
      let n ← name
      if before.contains n then failWith (n.toList ++ " is duplicated in argument list".toList)
      newlines
      if ← accept "," then parameters fuel (n :: before)
      else
        expect ")"
        return (n :: before).reverse

/-- Read rules and functions up to the end. -/
def program : (fuel : Nat) → (size : Nat) → Program → Reading Program
  | 0, _, p => return p
  | fuel + 1, size, p => do
    newlines
    match ← peek with
    | none => return p
    | some (.keyword "function") =>
      skip
      let f ← match ← peek with
        | some (.function n) | some (.name n) => do skip; pure n
        | _ => unexpected
      expect "("
      let ps ← parameters size []
      newlines
      modify fun q => { q with inFunction := true, hasRecord := false }
      let body ← block size
      modify fun q => { q with inFunction := false }
      let _ ← accept ";"
      program fuel size { p with functions := p.functions ++ [(f, ⟨ps, body⟩)] }
    | some t =>
      let condition : Condition ←
        match t with
        | .keyword "BEGIN" => do
          skip
          if !(← isSign "\x7b") then unexpected
          pure .start
        | .keyword "END" => do
          skip
          if !(← isSign "\x7b") then unexpected
          pure .finish
        | .sign "\x7b" => pure .always
        | _ => do
          let first ← expression size
          if ← accept "," then
            newlines
            pure (.range first (← expression size))
          else pure (.holds first)
      let hasRecord : Bool := match condition with
        | .start | .finish => false
        | _ => true
      modify fun q => { q with hasRecord }
      let body ← if ← isSign "\x7b" then some <$> block size else pure none
      match ← peek with
      | some (.sign ";") => skip
      | some .newline | none => pure ()
      | some _ => if body.isNone then unexpected
      program fuel size { p with rules := p.rules ++ [⟨condition, body⟩] }

def read (text : Octets) : Except Octets Program := do
  let text := text ++ ['\n']
  let lines := text.count '\n'
  let placed (f : Fault) : Octets :=
    "line ".toList ++ Octets.ofNat f.line ++ ": ".toList ++ f.text
  match tokens (text.length + 1) 1 none text with
  | .error (.runawayText cs, line) =>
    throw (placed ⟨"runaway string constant ".toList ++ cs ++ " ...".toList, line⟩)
  | .error (.runawayPattern cs, line) =>
    throw (placed ⟨"runaway regular expression ".toList ++ cs ++ " ...".toList, line⟩)
  | .error (.unexpected c, line) =>
    throw (Octets.ofNat line ++ ": unexpected character '".toList ++ [c, '\''])
  | .ok words =>
    let size := 32 * words.length + 64
    match (program size size ⟨[], []⟩).run { rest := words } with
    | .error f => throw (placed f)
    | .ok (p, progress) =>
      for (f, count, line) in progress.calls.reverse do
        match p.functions.lookup f with
        | none => throw (placed ⟨"function ".toList ++ f.toList ++ " never defined".toList, lines + 1⟩)
        | some d =>
          if d.parameters.length < count then
            throw (placed ⟨"too many arguments in call to ".toList ++ f.toList, line⟩)
      return p

end BoardRig.Toolbox.Records
