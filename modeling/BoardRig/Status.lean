/-
What a bootloader or a firmware says about itself.

The text of a status is read line by line. A line counts when what stands
before its first colon (or, without a colon, before its first equals sign)
names a field. Names are compared without blanks, underscores and hyphens and
in lower case. A later line wins over an earlier one for the same field. The
text is a status when at least one line counts.

Firmware answers with its bank behind `Bank:`.
-/
import BoardRig.Error
import BoardRig.Json.Printer
import BoardRig.Text.Blank

namespace BoardRig

/-- What a bootloader reports; every part may be missing. -/
structure BootloaderStatus where
  version : Option String
  /-- The bank that is booted next. -/
  activeBank : Option UInt8
  versionA : Option UInt32
  versionB : Option UInt32
  state : Option String
deriving DecidableEq, Repr

namespace BootloaderStatus

def empty : BootloaderStatus := ⟨none, none, none, none, none⟩

/-! ## Names

Names are written in many ways, so they are compared without fillers and in lower
case. -/

/-- The lower-case form of a character, where that is an ASCII letter. The
Kelvin sign is the one other character that has such a form. -/
def lower (c : Char) : Char :=
  if c = '\u212A' then 'k' else Text.lowerAscii c

/-- Whether a character has no part in a name. -/
def isFiller (c : Char) : Bool :=
  Text.isBlank c || c == '_' || c == '-'

/-- A name as it is compared. -/
def normalize (cs : List Char) : List Char :=
  (cs.filter fun c => !isFiller c).map lower

/-- The fields of a status. -/
inductive Field where
  | version
  | activeBank
  | versionA
  | versionB
  | state
deriving DecidableEq, Repr

def Field.name : Field → List Char
  | .version => "bootloader".toList
  | .activeBank => "activebank".toList
  | .versionA => "versiona".toList
  | .versionB => "versionb".toList
  | .state => "state".toList

def Field.all : List Field := [.version, .activeBank, .versionA, .versionB, .state]

def Field.ofName? (cs : List Char) : Option Field :=
  Field.all.find? (·.name == normalize cs)

/-! ## Values

Numbers are read as far as there are digits, and what stands behind them is left
out. -/

/-- The number below `limit` that the digits at the front of a text give,
behind blanks. -/
def leadingNumber? (limit : Nat) (cs : List Char) : Option Nat :=
  let digits := (Text.trim cs).takeWhile Char.isDigit
  if digits.isEmpty then none
  else
    let n := digits.foldl (fun n c => n * 10 + (c.toNat - '0'.toNat)) 0
    if n < limit then some n else none

def leadingByte? (cs : List Char) : Option UInt8 :=
  (leadingNumber? (Nat.pow 2 8) cs).map UInt8.ofNat

def leadingWord? (cs : List Char) : Option UInt32 :=
  (leadingNumber? (Nat.pow 2 32) cs).map UInt32.ofNat

/-- Whether a value says that a version is not known. -/
def isUnknown (cs : List Char) : Bool :=
  cs.isEmpty || Text.sameIgnoringCase cs "unknown".toList

/-- A status after a field was reported with a value. A version that is not
known leaves an earlier one in place. -/
def report (s : BootloaderStatus) (field : Field) (value : List Char) : BootloaderStatus :=
  match field with
  | .version => if isUnknown value then s else { s with version := some (String.ofList value) }
  | .activeBank => { s with activeBank := leadingByte? value }
  | .versionA => { s with versionA := leadingWord? value }
  | .versionB => { s with versionB := leadingWord? value }
  | .state => { s with state := some (String.ofList value) }

/-! ## Texts

A text is read line by line, and lines that report nothing are passed over. -/

/-- The two sides of a line: cut at the first colon, or at the first equals
sign when there is no colon. -/
def sides? (line : List Char) : Option (List Char × List Char) :=
  (Text.cutAt? ':' line).or (Text.cutAt? '=' line)

def entry? (line : List Char) : Option (Field × List Char) := do
  let (key, value) ← sides? line
  let field ← Field.ofName? key
  return (field, Text.trim value)

/-- The fields and values that a text reports, in order. -/
def entries (text : List Char) : List (Field × List Char) :=
  (Text.lines text).filterMap entry?

def ofText? (text : String) : Option BootloaderStatus :=
  match entries text.toList with
  | [] => none
  | found => some (found.foldl (fun s (field, value) => s.report field value) empty)

/-- The status that a text reports, or why there is none. -/
def parse (text : String) : Except Error BootloaderStatus :=
  match ofText? text with
  | some s => .ok s
  | none => .error (.parse "no bootloader status fields in output")

/-! ## Update mode

The mode is asked of a status that was read, and also of a text that may not be one. -/

/-- The name of the update mode as it is compared. -/
def updateMode : List Char := "updatemode".toList

/-- Whether the reported state is the update mode, in any spelling. -/
def isUpdateMode (s : BootloaderStatus) : Bool :=
  match s.state with
  | some state => normalize state.toList == updateMode
  | none => false

/-- Whether a text mentions the update mode, in any spelling. -/
def mentionsUpdateMode (text : String) : Bool :=
  Text.occursIn updateMode (normalize text.toList)

/-! ## Records -/

/-- The status as a record; what is not reported is null. -/
def toJson (s : BootloaderStatus) : Json :=
  Json.record [
    ("bootloader_version", Json.orNull (s.version.map .string)),
    ("active_bank", Json.orNull (s.activeBank.map fun b => Json.nat b.toNat)),
    ("version_a", Json.orNull (s.versionA.map fun v => Json.nat v.toNat)),
    ("version_b", Json.orNull (s.versionB.map fun v => Json.nat v.toNat)),
    ("state", Json.orNull (s.state.map .string))]

end BootloaderStatus

/-- The bank in a firmware's answer: the first number behind `Bank:`. -/
def firmwareBank? (text : String) : Option UInt8 :=
  (Text.afterEach "Bank:".toList text.toList).findSome? BootloaderStatus.leadingByte?

end BoardRig
