/-
Values on the command line: numbers in base sixteen and seconds.

A number in base sixteen may have blanks around it, prefixes in front and
underscores anywhere. Seconds become a span of time when they are a number
that is not negative and not too large.
-/
import BoardRig.Duration
import BoardRig.Failure
import BoardRig.Text.Radix

namespace BoardRig.CommandLine

/-- The text behind every leading `0x`. -/
def dropLowerMarks : List Char → List Char
  | '0' :: 'x' :: rest => dropLowerMarks rest
  | cs => cs

/-- The text behind every leading `0X`. -/
def dropUpperMarks : List Char → List Char
  | '0' :: 'X' :: rest => dropUpperMarks rest
  | cs => cs

/-- The digits of a number in base sixteen: what is left without the blanks
around it, the marks in front, small ones before large ones, and all
underscores. -/
def hexDigits (text : String) : List Char :=
  (dropUpperMarks (dropLowerMarks (Text.trim text.toList))).filter (· != '_')

/-- Why a number was refused. -/
inductive HexFault where
  | malformed (cause : Radix.Fault)
  | tooLarge (text : String)
deriving DecidableEq, Repr

def HexFault.message : HexFault → String
  | .malformed cause => "Invalid hex value: " ++ cause.message
  | .tooLarge text => text ++ " does not fit in 16 bits"

/-- The number of 32 bits that a text denotes. -/
def hexWord (text : String) : Except HexFault UInt32 :=
  match Radix.read 16 (Nat.pow 2 32) (hexDigits text) with
  | .ok n => .ok (UInt32.ofNat n)
  | .error e => .error (.malformed e)

/-- The number of 16 bits that a text denotes. -/
def hexHalf (text : String) : Except HexFault UInt16 :=
  match hexWord text with
  | .error e => .error e
  | .ok w => if w.toNat < Nat.pow 2 16 then .ok w.toUInt16 else .error (.tooLarge text)

/-- A number of seconds as a span, or a span for their absence. -/
def secondsOr (default : Duration) : Option Decimal.Binary64 → Except Cause Duration
  | none => .ok default
  | some s =>
    match Duration.ofBinary? s with
    | some d => .ok d
    | none => .error (.usage ("invalid timeout: " ++ s.text Decimal.plain))

end BoardRig.CommandLine
