/-
Regular expressions.

An expression describes texts: single characters, one thing behind another,
one of two things, and repetitions. Some expressions say only something about
the place where they stand. A part may be remembered under a number, and the
same text may be asked for again.
-/
import BoardRig.Shell.Octets

namespace BoardRig

/-- What holds of a place in a text. -/
inductive Edge where
  /-- The start of the text. -/
  | start
  /-- The end of the text. -/
  | finish
  /-- The start of a line. -/
  | lineStart
  /-- The end of a line. -/
  | lineFinish
  /-- Between a word and something else. -/
  | word
  /-- Not there. -/
  | noWord
  | wordStart
  | wordFinish
deriving DecidableEq, Repr

/-- A regular expression. -/
inductive Regex where
  | empty
  /-- One character that something holds of. -/
  | single (holds : Char → Bool)
  | edge (e : Edge)
  | sequence (a b : Regex)
  | either (a b : Regex)
  /-- Something so many times at least, and so many at most. -/
  | times (a : Regex) (least : Nat) (most : Option Nat)
  /-- A part that is remembered under a number. -/
  | group (number : Nat) (a : Regex)
  /-- The text that was remembered under a number. -/
  | again (number : Nat)

namespace Regex

/-- Whether an expression asks for a text that was remembered. -/
def remembers : Regex → Bool
  | sequence a b | either a b => remembers a || remembers b
  | times a _ _ | group _ a => remembers a
  | again _ => true
  | _ => false

def literal (ignoreCase : Bool) (cs : Octets) : Regex :=
  cs.foldr (fun c r =>
    .sequence (.single fun d => d == c || (ignoreCase && d.toLower == c.toLower)) r) .empty

end Regex

namespace Edge

def isWordCharacter (c : Char) : Bool := c.isAlphanum || c == '_'

/-- Whether something holds of a place, given what stands before and behind
it. -/
def holds (e : Edge) (before behind : Option Char) : Bool :=
  let left := before.any isWordCharacter
  let right := behind.any isWordCharacter
  match e with
  | .start => before.isNone
  | .finish => behind.isNone
  | .lineStart => before.all (· == '\n')
  | .lineFinish => behind.all (· == '\n')
  | .word => left != right
  | .noWord => left == right
  | .wordStart => !left && right
  | .wordFinish => left && !right

end Edge

end BoardRig
