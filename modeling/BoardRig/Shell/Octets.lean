/-
Octets, as shells and programs handle them.

An octet is written as the character with the same number, so that octets
read as text. What programs write need not be text at all.
-/
import BoardRig.Text.Blank
import BoardRig.Text.Utf8

namespace BoardRig

/-- Octets, each as the character with its number. -/
abbrev Octets := List Char

namespace Octets

def ofBytes (bs : Bytes) : Octets := bs.map fun b => Char.ofNat b.toNat

def toBytes (cs : Octets) : Bytes := cs.map fun c => UInt8.ofNat c.toNat

def ofString (s : String) : Octets := ofBytes (Utf8.encodeString s)

/-- The text of octets; what is no text shows as the replacement character. -/
def text (cs : Octets) : String := Utf8.lossyString (toBytes cs)

def ofNat (n : Nat) : Octets := (Nat.repr n).toList

/-- The decimal numeral of a number with a sign. -/
def ofInt (n : Int) : Octets := if n < 0 then '-' :: ofNat n.natAbs else ofNat n.natAbs

/-- The number that decimal digits at the front denote, and what is behind
them. -/
def leadingNat (cs : Octets) : Nat × Octets :=
  let digits := cs.takeWhile Char.isDigit
  (digits.foldl (fun n c => n * 10 + (c.toNat - 48)) 0, cs.drop digits.length)

/-- The number that decimal digits denote. -/
def nat? (cs : Octets) : Option Nat :=
  match leadingNat cs with
  | (n, []) => if cs.isEmpty then none else some n
  | _ => none

/-- Octets filled up with others in front. -/
def padLeft (width : Nat) (fill : Char) (cs : Octets) : Octets :=
  List.replicate (width - cs.length) fill ++ cs

/-- Octets filled up with others behind. -/
def padRight (width : Nat) (fill : Char) (cs : Octets) : Octets :=
  cs ++ List.replicate (width - cs.length) fill

/-- Whether some octets come before others, octet by octet. -/
def before (a b : Octets) : Bool := decide (a < b)

def sorted (xs : List Octets) : List Octets :=
  xs.mergeSort fun a b => !before b a

def endsWith (ending cs : Octets) : Bool := ending.reverse.isPrefixOf cs.reverse

def lines (cs : Octets) : List Octets :=
  let pieces := Text.split '\n' cs
  pieces.dropLast.map (· ++ ['\n']) ++ (pieces.getLast?.filter (!·.isEmpty)).toList

/-- The lines of octets without their endings. -/
def bareLines (cs : Octets) : List Octets :=
  let pieces := Text.split '\n' cs
  pieces.dropLast ++ (pieces.getLast?.filter (!·.isEmpty)).toList

def ofLines (lines : List Octets) : Octets := lines.flatMap (· ++ ['\n'])

end Octets

end BoardRig
