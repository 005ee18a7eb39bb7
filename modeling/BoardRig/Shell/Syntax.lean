/-
The language of shell scripts.

A script is a sequence of commands. A command is simple, or it is made from
other ones by pipes, conditions, loops and groups. The words of a command
have parts: text, and expansions that are made when the command is run.
-/
import BoardRig.Shell.Octets

namespace BoardRig.Shell

/-- What a parameter is asked for. -/
inductive ParameterUse where
  /-- Its value. -/
  | value
  /-- The length of its value. -/
  | length
  /-- Its value, or else a word (`:-`, or `-` without regard to emptiness). -/
  | orElse (orEmpty : Bool)
  /-- Its value, after a word was assigned if it had none (`:=`). -/
  | orAssign (orEmpty : Bool)
  /-- Its value; without one the script ends with a word as the reason (`:?`). -/
  | orFail (orEmpty : Bool)
  /-- A word if it has a value, and else nothing (`:+`). -/
  | ifSet (orEmpty : Bool)
  /-- Its value without the shortest or longest match at its start. -/
  | withoutStart (longest : Bool)
  /-- Its value without the shortest or longest match at its end. -/
  | withoutEnd (longest : Bool)
  /-- Something that has no meaning. -/
  | unknown
deriving DecidableEq, Repr

/-- What a redirection does to a descriptor. -/
inductive RedirectKind where
  | read
  | readWrite
  | write
  /-- Write in any case, also in place of a file that is protected. -/
  | overwrite
  | append
  /-- Let it be the same as another descriptor, to read or to write. -/
  | duplicate (toWrite : Bool)
  /-- Read the text that is given with the script. -/
  | here (document : Nat)
deriving DecidableEq, Repr

/-- How two commands are joined. -/
inductive Joint where
  /-- The second follows in any case. -/
  | always
  /-- The second follows if the first succeeds. -/
  | success
  /-- The second follows if the first fails. -/
  | failure
deriving DecidableEq, Repr

mutual

/-- A part of a word. Parts in quotes are kept together and are no patterns. -/
inductive Part where
  | text (quoted : Bool) (octets : Octets)
  /-- A parameter, and the word that its use may need. -/
  | parameter (quoted : Bool) (name : String) (use : ParameterUse) (word : List Part)
  /-- What commands write. -/
  | output (quoted : Bool) (script : Command)
  /-- The value of an expression. -/
  | value (quoted : Bool) (expression : List Part)

/-- A redirection of a descriptor. -/
inductive Redirect where
  | mk (descriptor : Nat) (kind : RedirectKind) (target : List Part)

/-- A command. Some know the line that they stand on. -/
inductive Command where
  | nothing
  | simple (line : Nat) (assignments words : List (List Part)) (redirects : List Redirect)
  /-- What each writes is read by the next. -/
  | pipe (commands : List Command)
  /-- The opposite outcome. -/
  | negated (command : Command)
  | joined (joint : Joint) (first second : Command)
  /-- Run beside the rest. -/
  | background (command : Command)
  | choose (condition yes no : Command)
  /-- Run the body while the condition succeeds, or until it does. -/
  | repeated (untilSuccess : Bool) (condition body : Command)
  /-- Run the body for each word. -/
  | forEach (line : Nat) (name : String) (words : List (List Part)) (body : Command)
  /-- Run the first branch that has a matching pattern. -/
  | select (line : Nat) (subject : List Part) (branches : List (List (List Part) × Command))
  /-- Run with a copy of the state. -/
  | subshell (line : Nat) (command : Command) (redirects : List Redirect)
  | redirected (line : Nat) (command : Command) (redirects : List Redirect)
  | function (line : Nat) (name : String) (body : Command)

end

instance : Inhabited Command := ⟨.nothing⟩

abbrev Word := List Part

namespace Word

/-- The text of a word in which nothing is quoted or expanded. -/
def bare? : Word → Option Octets
  | [] => some []
  | .text false cs :: rest => (bare? rest).map (cs ++ ·)
  | _ => none

def plain : Word → Octets
  | [] => []
  | .text _ cs :: rest => cs ++ plain rest
  | _ :: rest => plain rest

/-- All arguments of the script, each as a field of its own. -/
def arguments : Word := [.parameter true "@" .value []]

end Word

/-! ## Names -/

def beginsName (c : Char) : Bool := c.isAlpha || c == '_'

/-- Whether a character may stand in a name. -/
def isInName (c : Char) : Bool := c.isAlphanum || c == '_'

def isName (cs : Octets) : Bool :=
  match cs with
  | c :: rest => beginsName c && rest.all isInName
  | [] => false

/-- Whether a character alone is the name of a parameter, other than a
digit. -/
def isSpecialName (c : Char) : Bool :=
  ['@', '*', '#', '?', '$', '!', '-'].contains c

def assignment? (cs : Octets) : Option (Octets × Octets) :=
  let name := cs.takeWhile isInName
  match cs.drop name.length with
  | '=' :: value => if isName name then some (name, value) else none
  | _ => none

/-- The name and the word behind it that an assignment has. -/
def Word.assignment? : Word → Option (Octets × Word)
  | .text false cs :: rest =>
    (Shell.assignment? cs).map fun (name, value) =>
      (name, if value.isEmpty then rest else .text false value :: rest)
  | _ => none

end BoardRig.Shell
