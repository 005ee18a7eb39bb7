/-
The tokens of a script, and the text that they are read from.

A token is a word, or one of the signs that join words. A bare word is a
keyword where a command may begin. Aliases put their values in front of the
text that is read next; an alias is not looked up inside its own value.
-/
import BoardRig.Shell.Syntax

namespace BoardRig.Shell

/-- The words that have a meaning where a command may begin. -/
inductive Keyword where
  | negation
  | open
  | close
  | caseOf
  | doBody
  | doneBody
  | elifBranch
  | elseBranch
  | endCase
  | endIf
  | forEach
  | ifBranch
  | inWords
  | thenBranch
  | untilLoop
  | whileLoop
deriving DecidableEq, Repr

namespace Keyword

/-- The keywords as they are written. -/
def all : List (String × Keyword) := [
  ("!", negation), ("\x7b", .open), ("\x7d", .close), ("case", caseOf), ("do", doBody),
  ("done", doneBody), ("elif", elifBranch), ("else", elseBranch), ("esac", endCase),
  ("fi", endIf), ("for", forEach), ("if", ifBranch), ("in", inWords), ("then", thenBranch),
  ("until", untilLoop), ("while", whileLoop)]

def text (k : Keyword) : String :=
  ((all.find? (·.2 == k)).map (·.1)).getD ""

/-- Whether a list of commands ends in front of a keyword. -/
def endsList : Keyword → Bool
  | doBody | doneBody | elifBranch | elseBranch | endCase | endIf | thenBranch | close => true
  | _ => false

end Keyword

/-- A token. -/
inductive Token where
  | endOfText
  | newline
  | semicolon
  | ampersand
  | both
  | either
  | bar
  | openParenthesis
  | closeParenthesis
  | endBranch
  | redirection (descriptor : Nat) (kind : RedirectKind) (withoutTabs : Bool)
  | word (word : Word) (quoted : Bool)
  | keyword (keyword : Keyword)

namespace Token

def inQuotes (text : String) : String := "\"" ++ text ++ "\""

def shown : Token → String
  | endOfText => "end of file"
  | newline => "newline"
  | semicolon => inQuotes ";"
  | ampersand => inQuotes "&"
  | both => inQuotes "&&"
  | either => inQuotes "||"
  | bar => inQuotes "|"
  | openParenthesis => inQuotes "("
  | closeParenthesis => inQuotes ")"
  | endBranch => inQuotes ";;"
  | redirection _ _ _ => "redirection"
  | word _ _ => "word"
  | keyword k => inQuotes k.text

/-- Whether a list of commands ends in front of a token. -/
def endsList : Token → Bool
  | endOfText | closeParenthesis | endBranch => true
  | keyword k => k.endsList
  | _ => false

end Token

/-- What is made of the tokens that are read next. -/
structure Checks where
  /-- Ends of lines are passed over. -/
  newlines : Bool := false
  keywords : Bool := false
  aliases : Bool := false
  /-- A word ends a text that is given with the script, and is not expanded. -/
  endMark : Bool := false
deriving DecidableEq, Repr

def Checks.command : Checks := { keywords := true, aliases := true }

/-- Where a command must follow, on this line or a later one. -/
def Checks.follow : Checks := { newlines := true, keywords := true, aliases := true }

/-- A text that is still to be read from the lines behind a command. -/
structure Pending where
  document : Nat
  endMark : Octets
  withoutTabs : Bool
  literal : Bool

/-- The value of an alias that is read before the rest. -/
structure Front where
  name : String
  rest : Octets
  /-- Whether the word behind it may be an alias too. -/
  goesOn : Bool

/-- The text of a script while it is read. -/
structure Source where
  /-- The values of aliases that are being read, innermost first. -/
  fronts : List Front := []
  rest : Octets
  line : Nat := 1
  aliases : List (String × Octets) := []
  checks : Checks := {}
  /-- The token that was read last. -/
  last : Token := .newline
  /-- Whether that token is to be read once more. -/
  again : Bool := false
  pending : List Pending := []
  /-- The texts that were given with the script. -/
  documents : List (Nat × Word) := []
  /-- How many of those there have been. -/
  count : Nat := 0

/-- Why a script cannot be read on, and the line where it is so. -/
structure Fault where
  line : Nat
  text : String
deriving DecidableEq, Repr

abbrev Scan (α : Type) := StateT Source (Except Fault) α

namespace Scan

def fail {α : Type} (text : String) : Scan α := do
  throw ⟨(← get).line, "Syntax error: " ++ text⟩

/-- The limit of nested commands was reached. -/
def tooDeep {α : Type} : Scan α := fail "too deep"

def unexpected {α : Type} : Scan α := do
  fail ((← get).last.shown ++ " unexpected")

/-- Stop at a token that has no place where it is, and say what has. -/
def expected {α : Type} (t : Token) : Scan α := do
  fail ((← get).last.shown ++ " unexpected (expecting " ++ t.shown ++ ")")

def nextFrom (s : Source) : (fronts : List Front) → Option Char × Source
  | [] =>
    match s.rest with
    | c :: cs => (some c, { s with fronts := [], rest := cs })
    | [] => (none, { s with fronts := [] })
  | front :: more =>
    match front.rest with
    | c :: cs => (some c, { s with fronts := { front with rest := cs } :: more })
    | [] =>
      nextFrom (if front.goesOn then { s with checks.aliases := true } else s) more

def next : Scan (Option Char) := do
  let s ← get
  let (c, s) := nextFrom s s.fronts
  set s
  return c

def back (c : Option Char) : Scan Unit := modify fun s =>
  match c, s.fronts with
  | none, _ => s
  | some c, front :: more => { s with fronts := { front with rest := c :: front.rest } :: more }
  | some c, [] => { s with rest := c :: s.rest }

def newLine : Scan Unit := modify fun s => { s with line := s.line + 1 }

/-- Take the next character; a backslash in front of the end of a line is
passed over together with it. -/
def nextJoined : (fuel : Nat) → Scan (Option Char)
  | 0 => next
  | fuel + 1 => do
    match ← next with
    | some '\\' =>
      match ← next with
      | some '\n' => do newLine; nextJoined fuel
      | c => do back c; return some '\\'
    | c => return c

/-- How many joined lines are followed. -/
def joinLimit : Nat := Nat.pow 2 20

def take : Scan (Option Char) := nextJoined joinLimit

/-- Take the next character if it is a given one. -/
def accept (c : Char) : Scan Bool := do
  match ← take with
  | some d => if c = d then return true else back (some d); return false
  | none => return false

/-- Say what is made of the next tokens. -/
def check (checks : Checks) : Scan Unit := modify ({ · with checks })

/-- Have the last token read once more. -/
def giveBack : Scan Unit := modify ({ · with again := true })

/-- Have the value of an alias read before the rest. -/
def enter (name value : Octets) : Scan Unit := modify fun s =>
  let goesOn := value.getLast? == some ' ' || value.getLast? == some '\t'
  { s with fronts := ⟨String.ofList name, value, goesOn⟩ :: s.fronts }

def skipLine : (fuel : Nat) → Scan Unit
  | 0 => pure ()
  | fuel + 1 => do
    match ← next with
    | none => pure ()
    | some '\n' => back (some '\n')
    | some _ => skipLine fuel

/-- The value of an alias, unless it is being read already. -/
def alias? (s : Source) (name : Octets) : Option Octets :=
  let name := String.ofList name
  if s.fronts.any (·.name == name) then none else s.aliases.lookup name

end Scan

end BoardRig.Shell
