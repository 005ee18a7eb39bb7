/-
UF2 blocks, and the 512-byte frames that hold them.

A frame is eight words, 476 bytes of data and one more word. Three of the
words are fixed marks; the others tell where the payload goes, how many bytes
of the data belong to it, which block of how many this is, and for which
family of chips. The family word has that meaning only under a flag. A frame
is accepted when its length, its marks and its payload size are right, and
writing the block gives the same frame again.
-/
import BoardRig.Error
import BoardRig.Text.Radix
import BoardRig.Text.Utf8

namespace BoardRig.Uf2

/-! ## Words and pieces

Words of 32 bits are held with the low byte first.
-/

def wordBytes (w : UInt32) : Bytes :=
  [w.toUInt8, (w >>> 8).toUInt8, (w >>> 16).toUInt8, (w >>> 24).toUInt8]

/-- The word that the first four bytes give; fewer bytes give zero. -/
def wordOf : Bytes → UInt32
  | a :: b :: c :: d :: _ =>
    a.toUInt32 ||| (b.toUInt32 <<< 8) ||| (c.toUInt32 <<< 16) ||| (d.toUInt32 <<< 24)
  | _ => 0

def wordAt (offset : Nat) (bs : Bytes) : UInt32 :=
  wordOf (bs.drop offset)

@[simp] theorem wordBytes_length (w : UInt32) : (wordBytes w).length = 4 := rfl

/-- Pieces of `size` elements each, and a last one of what is left. -/
def chunks {α : Type} (size : Nat) (positive : 0 < size) (xs : List α) : List (List α) :=
  match _h : xs with
  | [] => []
  | _ :: _ => xs.take size :: chunks size positive (xs.drop size)
termination_by xs.length
decreasing_by
  subst _h
  simp only [List.length_drop, List.length_cons]
  omega

@[simp] theorem chunks_nil {α : Type} (size : Nat) (positive : 0 < size) :
    chunks size positive ([] : List α) = [] := by
  rw [chunks]

/-- Pieces of a list that is not empty: the first one, then those of the rest. -/
theorem chunks_of_ne_nil {α : Type} {size : Nat} (positive : 0 < size) {xs : List α}
    (h : xs ≠ []) :
    chunks size positive xs = xs.take size :: chunks size positive (xs.drop size) := by
  cases xs with
  | nil => exact absurd rfl h
  | cons x rest => rw [chunks]

/-! ## Layout

Where the parts of a frame lie, and the marks that it has. -/

/-- The first mark at the start, `UF2` and a line feed. -/
def startMark : UInt32 := 0x0A324655

def secondMark : UInt32 := 0x9E5D5157

def endMark : UInt32 := 0x0AB16F30

/-- The flag under which the family word names a family. -/
def familyFlag : UInt32 := 0x00002000

def rp2040Family : UInt32 := 0xE48BFF56

def frameSize : Nat := 512

/-- The length of the words in front of the data. -/
def headerSize : Nat := 32

/-- The length of the word behind the data. -/
def footerSize : Nat := 4

/-- The length of the data, and so the largest payload. -/
def dataSize : Nat := 476

/-- The payload that the tools of the chip write, one page of flash. -/
def pageSize : Nat := 256

/-! ## Faults -/

/-- Why a frame, a file or a setting was refused. -/
inductive Fault where
  | frameLength (length : Nat)
  | startMarks (first second : UInt32)
  | endMark (found index : UInt32)
  | payloadTooLarge (size : UInt32)
  | payloadSize (size : Nat)
  | fileLength (length : Nat)
  | index (position : Nat) (found : UInt32)
  | count (position : Nat) (claimed : UInt32) (actual : Nat)
  | family (position : Nat) (found first : UInt32)
  | emptyInput (path : String)
  | noBlocks
  | noFileName (path : String)
deriving DecidableEq, Repr

def shown (w : UInt32) : String := Radix.address w.toNat

def Fault.message : Fault → String
  | .frameLength length => s!"block is {length} bytes, expected {frameSize}"
  | .startMarks first second => s!"bad start magic {shown first} {shown second}"
  | .endMark found position => s!"bad end magic {shown found} in block {position.toNat}"
  | .payloadTooLarge size => s!"payload size {size.toNat} exceeds {dataSize}"
  | .payloadSize size => s!"payload size must be 1..={dataSize}, got {size}"
  | .fileLength length => s!"file size {length} is not a positive multiple of {frameSize}"
  | .index position found => s!"block {position} has index {found.toNat}"
  | .count position claimed actual =>
    s!"block {position} claims {claimed.toNat} blocks, file has {actual}"
  | .family position found first =>
    s!"block {position} family {shown found} differs from {shown first}"
  | .emptyInput path => s!"{path} is empty, refusing to write a UF2 with no blocks"
  | .noBlocks => "no UF2 blocks to deploy"
  | .noFileName path => s!"{path} has no file name"

def Fault.error (f : Fault) : Error := .invalidImage f.message

def checked {α : Type} : Except Fault α → Except Error α
  | .ok a => .ok a
  | .error f => .error f.error

/-! ## Blocks -/

/-- One block of a UF2 file. -/
structure Block where
  flags : UInt32
  /-- Where the payload goes in the memory of the chip. -/
  address : UInt32
  /-- How many bytes of the data are payload. -/
  payloadSize : UInt32
  /-- The place of the block in its file, from zero on. -/
  index : UInt32
  /-- How many blocks the file has. -/
  count : UInt32
  /-- The family of chips, or the size of the file without the family flag. -/
  family : UInt32
  data : Bytes
  data_length : data.length = dataSize
deriving DecidableEq

namespace Block

/-- The bytes that go into the memory of the chip. -/
def payload (b : Block) : Bytes :=
  b.data.take b.payloadSize.toNat

def hasFamily (b : Block) : Bool :=
  b.flags &&& familyFlag != 0

/-- One past the last address of the payload, or the last address there is. -/
def endAddress (b : Block) : Nat :=
  min (b.address.toNat + b.payloadSize.toNat) (Nat.pow 2 32 - 1)

def header (b : Block) : List UInt32 :=
  [startMark, secondMark, b.flags, b.address, b.payloadSize, b.index, b.count, b.family]

def toFrame (b : Block) : Bytes :=
  b.header.flatMap wordBytes ++ b.data ++ wordBytes endMark

theorem toFrame_length (b : Block) : b.toFrame.length = frameSize := by
  simp [toFrame, header, b.data_length, dataSize, frameSize]

/-- The data of a frame, between its header and its last word. -/
def dataOf (frame : Bytes) : Bytes :=
  (frame.drop headerSize).take dataSize

theorem dataOf_length {frame : Bytes} (h : frame.length = frameSize) :
    (dataOf frame).length = dataSize := by
  simp [dataOf, h, frameSize, headerSize, dataSize]

def ofFrame (frame : Bytes) : Except Fault Block :=
  if h : frame.length = frameSize then
    let first := wordAt 0 frame
    let second := wordAt 4 frame
    let index := wordAt 20 frame
    let last := wordAt (frameSize - footerSize) frame
    let payloadSize := wordAt 16 frame
    if first ≠ startMark ∨ second ≠ secondMark then .error (.startMarks first second)
    else if last ≠ endMark then .error (.endMark last index)
    else if dataSize < payloadSize.toNat then .error (.payloadTooLarge payloadSize)
    else .ok {
      flags := wordAt 8 frame
      address := wordAt 12 frame
      payloadSize
      index
      count := wordAt 24 frame
      family := wordAt 28 frame
      data := dataOf frame
      data_length := dataOf_length h }
  else .error (.frameLength frame.length)

end Block

end BoardRig.Uf2
