/-
The options of programs.

An option is a letter behind a hyphen or a word behind two. Letters may share
a hyphen, and a word may be cut short as long as only one word begins so. An
option may take a value, which stands behind it or is the next argument.
Options may stand behind operands unless the first operand ends them; two
hyphens end them in any case.
-/
import BoardRig.Toolbox.Basic

namespace BoardRig.Toolbox

open Shell

/-- Whether an option takes a value. -/
inductive Takes where
  | nothing
  | value
  /-- Only a value that stands right behind it. -/
  | attached
deriving DecidableEq, Repr

/-- An option. -/
structure Flag where
  letter : Option Char
  word : String
  takes : Takes

namespace Flag

def plain (letter : Char) (word : String) : Flag := ⟨some letter, word, .nothing⟩

/-- An option with a letter and a word that takes a value. -/
def valued (letter : Char) (word : String) : Flag := ⟨some letter, word, .value⟩

def long (word : String) (takes : Takes) : Flag := ⟨none, word, takes⟩

end Flag

/-- What is wrong with options. -/
inductive Misuse where
  | unknownLetter (letter : Char)
  | letterWithoutValue (letter : Char)
  | unknownWord (arg : Octets)
  | ambiguous (arg : Octets) (words : List String)
  | wordWithValue (word : String)
  | wordWithoutValue (word : String)

def Misuse.text : Misuse → Octets
  | unknownLetter c => "invalid option -- '".toList ++ [c, '\'']
  | letterWithoutValue c => "option requires an argument -- '".toList ++ [c, '\'']
  | unknownWord arg => "unrecognized option '".toList ++ arg ++ ['\'']
  | ambiguous arg words =>
    "option '".toList ++ arg ++ "' is ambiguous; possibilities:".toList ++
      words.flatMap fun word => (" '--" ++ word ++ "'").toList
  | wordWithValue word => ("option '--" ++ word ++ "' doesn't allow an argument").toList
  | wordWithoutValue word => ("option '--" ++ word ++ "' requires an argument").toList

/-- The options that were given, in order, each under its word. -/
structure Given where
  options : List (String × Octets) := []
  operands : List Octets := []

namespace Given

def has (g : Given) (word : String) : Bool := g.options.any (·.1 == word)

def last? (g : Given) (word : String) : Option Octets :=
  (g.options.reverse.find? (·.1 == word)).map (·.2)

def all (g : Given) (word : String) : List Octets :=
  (g.options.filter (·.1 == word)).map (·.2)

def lastOf? (g : Given) (words : List String) : Option String :=
  (g.options.reverse.find? fun o => words.contains o.1).map (·.1)

def withOption (word : String) (value : Octets) (g : Given) : Given :=
  { g with options := (word, value) :: g.options }

def withOperand (arg : Octets) (g : Given) : Given :=
  { g with operands := arg :: g.operands }

end Given

def Flag.named (flags : List Flag) (arg word : Octets) : Except Misuse Flag :=
  match flags.find? fun f => f.word.toList == word with
  | some f => .ok f
  | none =>
    match flags.filter fun f => word.isPrefixOf f.word.toList with
    | [] => .error (.unknownWord arg)
    | [f] => .ok f
    | f :: more =>
      if more.all fun g => g.letter == f.letter && f.letter.isSome then .ok f
      else .error (.ambiguous ("--".toList ++ word) ((f :: more).map (·.word)))

/-- Read arguments. `mixed` says that options may stand behind operands. -/
def Given.read (flags : List Flag) (mixed : Bool) : (fuel : Nat) → List Octets →
    Except Misuse Given
  | 0, args => .ok { operands := args }
  | _ + 1, [] => .ok {}
  | _ + 1, ['-', '-'] :: rest => .ok { operands := rest }
  | fuel + 1, arg :: rest =>
    match arg with
    | '-' :: '-' :: long => do
      let name := long.takeWhile (· != '=')
      let value? := if name.length < long.length then some (long.drop (name.length + 1)) else none
      let f ← Flag.named flags arg name
      match f.takes, value?, rest with
      | .nothing, some _, _ => throw (.wordWithValue f.word)
      | .nothing, none, rest => return (← read flags mixed fuel rest).withOption f.word []
      | .attached, value, rest =>
        return (← read flags mixed fuel rest).withOption f.word (value.getD [])
      | .value, some value, rest =>
        return (← read flags mixed fuel rest).withOption f.word value
      | .value, none, value :: rest =>
        return (← read flags mixed fuel rest).withOption f.word value
      | .value, none, [] => throw (.wordWithoutValue f.word)
    | '-' :: c :: letters =>
      match flags.find? fun f => f.letter == some c with
      | none => .error (.unknownLetter c)
      | some f =>
        match f.takes, letters, rest with
        | .nothing, [], rest => do return (← read flags mixed fuel rest).withOption f.word []
        | .nothing, letters, rest => do
          return (← read flags mixed fuel (('-' :: letters) :: rest)).withOption f.word []
        | .attached, value, rest => do
          return (← read flags mixed fuel rest).withOption f.word value
        | .value, [], value :: rest => do
          return (← read flags mixed fuel rest).withOption f.word value
        | .value, [], [] => .error (.letterWithoutValue c)
        | .value, value, rest => do
          return (← read flags mixed fuel rest).withOption f.word value
    | arg =>
      if mixed then do return (← read flags mixed fuel rest).withOperand arg
      else .ok { operands := arg :: rest }

/-- How many steps it takes at most to read arguments. -/
def Given.effort (args : List Octets) : Nat := args.foldl (fun n arg => n + arg.length + 1) 1

/-- Read arguments, or complain and stop with a status. -/
def givenWith (flags : List Flag) (mixed : Bool) (status : Nat) (args : List Octets) :
    Run Given := do
  match Given.read flags mixed (Given.effort args) args with
  | .ok g => return g
  | .error e => misused status e.text

/-- Read arguments in which options may stand anywhere. -/
def given (flags : List Flag) (args : List Octets) : Run Given := givenWith flags true 1 args

/-- The word that a value of an option stands for: the first one of the group in
which a word is the value or begins with it. Groups are words for the same. -/
def chosen (status : Nat) (option : String) (groups : List (List String)) (value : Octets) :
    Run String := do
  let word := fun (group : List String) => group.head?.getD ""
  match groups.find? fun group => group.any (·.toList == value) with
  | some group => return word group
  | none =>
    let (problem, found) := match groups.filter fun group =>
        group.any fun w => value.isPrefixOf w.toList with
      | [group] => ("", word group)
      | [] => ("invalid", "")
      | _ :: _ :: _ => ("ambiguous", "")
    if problem = "" then return found
    misused status ((problem ++ " argument ").toList ++ Quote.always value ++ " for ".toList ++
      Quote.always option.toList ++ "\nValid arguments are:".toList ++
      groups.flatMap fun group =>
        "\n  - ".toList ++ List.intercalate ", ".toList (group.map fun w => '\'' :: w.toList ++ ['\'']))

end BoardRig.Toolbox
