/-
The table of mounted file systems.

Each line of the table names a device, a mount point and a type, with blanks
between them. A backslash and three octal digits stand for one byte, so that
names can hold blanks. A volume is known by its mount point: the last name of
the path carries the label.
-/
import BoardRig.Path
import BoardRig.Text.Utf8

namespace BoardRig

/-- One line of the mount table. -/
structure Mount where
  device : String
  mountPoint : String
  fsType : String
deriving DecidableEq, Repr

namespace Mount

/-! ## Octal escapes

Escapes stand for bytes, so they are read before the bytes are a text. -/

def octalDigit? (b : UInt8) : Option Nat :=
  if 48 ≤ b.toNat ∧ b.toNat ≤ 55 then some (b.toNat - 48) else none

def octalByte? (a b c : UInt8) : Option UInt8 := do
  let n := ((← octalDigit? a) * 8 + (← octalDigit? b)) * 8 + (← octalDigit? c)
  if n < 256 then some (UInt8.ofNat n) else none

/-- The byte that an escape at the front of some bytes stands for. -/
def escape? : Bytes → Option UInt8
  | slash :: a :: b :: c :: _ => if slash = 92 then octalByte? a b c else none
  | _ => none

/-- Bytes with their escapes read. A backslash that begins no escape stands
for itself. -/
def unescapeBytes : Bytes → Bytes
  | [] => []
  | b :: rest =>
    match escape? (b :: rest) with
    | some byte => byte :: unescapeBytes (rest.drop 3)
    | none => b :: unescapeBytes rest
termination_by bs => bs.length
decreasing_by all_goals simp_wf; try omega

def unescape (field : List Char) : String :=
  Utf8.lossyString (unescapeBytes (Utf8.encode field))

/-! ## Lines

A line has its fields at fixed places; one without a mount point is no entry. -/

/-- The entry of a line; the type may be missing. -/
def ofWords? : List (List Char) → Option Mount
  | device :: mountPoint :: rest =>
    some ⟨unescape device, unescape mountPoint, String.ofList (rest.head?.getD [])⟩
  | _ => none

def parseTable (table : String) : List Mount :=
  (Text.lines table.toList).filterMap fun line => ofWords? (Text.words line)

/-! ## Volumes

A label is looked for in the last name of the mount point, as the table has none. -/

/-- Whether a mount point looks like the volume with a label. -/
def carriesLabel (label mountPoint : String) : Bool :=
  match Path.fileName? mountPoint with
  | some name => Text.occursIn label.toList name.toList
  | none => false

/-- The mount point of the first entry that looks like the volume. -/
def findMounted? (table label : String) : Option String :=
  ((parseTable table).map (·.mountPoint)).find? (carriesLabel label)

end Mount

end BoardRig
