/-
Escapes: a backslash and what stands behind it.

A letter stands for a control character, and digits stand for the octet with
that number. Programs differ in which escapes they know; what they do not
know stands for itself.
-/
import BoardRig.Shell.Octets
import BoardRig.Text.Radix

namespace BoardRig.Shell.Escape

/-- The control character that a letter stands for behind a backslash. -/
def control? : Char → Option Char
  | 'a' => some '\x07'
  | 'b' => some '\x08'
  | 'e' => some '\x1b'
  | 'f' => some '\x0c'
  | 'n' => some '\n'
  | 'r' => some '\r'
  | 't' => some '\t'
  | 'v' => some '\x0b'
  | '\\' => some '\\'
  | _ => none

def isOctal (c : Char) : Bool := '0' ≤ c && c ≤ '7'

/-- The octet that at most `count` digits of a base denote, and the text behind
them. -/
def numbered (base count : Nat) (cs : Octets) : Char × Octets :=
  let digits := (cs.take count).takeWhile fun c => (Radix.digit? base c).isSome
  let n := digits.foldl (fun n c => n * base + (Radix.digit? base c).getD 0) 0
  (Char.ofNat (n % 256), cs.drop digits.length)

/-- What stands behind a backslash: the octet, and the text behind it. What is
no escape leaves the backslash. -/
def escaped (cs : Octets) : Char × Octets :=
  match cs with
  | [] => ('\\', [])
  | c :: rest =>
    if isOctal c then numbered 8 3 cs
    else
      match control? c with
      | some d => (d, rest)
      | none => ('\\', cs)

/-- The same where an octal number may begin with a zero that does not count. -/
def escapedLonger (cs : Octets) : Char × Octets :=
  match cs with
  | '0' :: c :: rest => if isOctal c then numbered 8 3 (c :: rest) else escaped cs
  | cs => escaped cs

/-- The same with numbers in base sixteen behind an `x`. -/
def escapedFully (cs : Octets) : Char × Octets :=
  match cs with
  | 'x' :: c :: rest =>
    if (Radix.digit? 16 c).isSome then numbered 16 2 (c :: rest) else ('\\', cs)
  | cs => escapedLonger cs

/-- A text with its escapes written out, and whether `\c` ended it early. -/
def written (escape : Octets → Char × Octets) : (fuel : Nat) → (before : Octets) → Octets →
    Octets × Bool
  | 0, before, _ => (before.reverse, false)
  | _ + 1, before, [] => (before.reverse, false)
  | _ + 1, before, '\\' :: 'c' :: _ => (before.reverse, true)
  | fuel + 1, before, '\\' :: rest =>
    let (c, rest) := escape rest
    written escape fuel (c :: before) rest
  | fuel + 1, before, c :: rest => written escape fuel (c :: before) rest

/-- A text with its escapes written out, and whether it ended early. -/
def expanded (escape : Octets → Char × Octets) (cs : Octets) : Octets × Bool :=
  written escape (cs.length + 1) [] cs

end BoardRig.Shell.Escape
