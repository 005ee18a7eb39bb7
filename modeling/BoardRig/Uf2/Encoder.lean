/-
Cutting a raw image into UF2 blocks.

Every block but the last carries a full payload; the last one is filled up
with zeros and carries the same size. Block `i` goes to the base address plus
`i` payloads, where addresses wrap around at 32 bits, and each block knows
how many there are. An image without bytes gives no blocks.
-/
import BoardRig.Uf2.Block

namespace BoardRig.Uf2

/-- A raw image and the address it is meant for. -/
structure Image where
  data : Bytes
  base : UInt32
deriving DecidableEq

/-- The settings of an encoding. -/
structure Encoder where
  family : UInt32
  /-- The bytes in each block. -/
  payloadSize : Nat
  payloadSize_pos : 0 < payloadSize
  payloadSize_le : payloadSize ≤ dataSize

namespace Encoder

/-- The encoder for a family, with one page of flash in each block. -/
def ofFamily (family : UInt32) : Encoder where
  family
  payloadSize := pageSize
  payloadSize_pos := by decide
  payloadSize_le := by decide

/-- The encoder with another payload size, from one byte up to the whole data
of a block. -/
def withPayloadSize (e : Encoder) (size : Nat) : Except Fault Encoder :=
  if h : 0 < size ∧ size ≤ dataSize then
    .ok { e with payloadSize := size, payloadSize_pos := h.1, payloadSize_le := h.2 }
  else .error (.payloadSize size)

/-- How many blocks an image of some length takes. -/
def blockCount (e : Encoder) (length : Nat) : Nat :=
  (length + e.payloadSize - 1) / e.payloadSize

/-- A piece of an image filled up with zeros to the data of a block. -/
def pad (piece : Bytes) : Bytes :=
  (piece ++ List.replicate dataSize 0).take dataSize

theorem pad_length (piece : Bytes) : (pad piece).length = dataSize := by
  simp [pad]

/-- The block for the piece at place `i` of an image. -/
def block (e : Encoder) (base : UInt32) (count i : Nat) (piece : Bytes) : Block where
  flags := familyFlag
  address := base + UInt32.ofNat (i * e.payloadSize)
  payloadSize := UInt32.ofNat e.payloadSize
  index := UInt32.ofNat i
  count := UInt32.ofNat count
  family := e.family
  data := pad piece
  data_length := pad_length piece

def encode (e : Encoder) (image : Image) : List Block :=
  (chunks e.payloadSize e.payloadSize_pos image.data).mapIdx
    (e.block image.base (e.blockCount image.data.length))

/-- Write the frames of an image behind what was written already; yields how
many there are. -/
def writeTo (e : Encoder) (image : Image) : StateM Bytes Nat := fun written =>
  let blocks := e.encode image
  (blocks.length, written ++ blocks.flatMap Block.toFrame)

def fileOf (e : Encoder) (image : Image) : Bytes :=
  (e.writeTo image []).2

end Encoder

end BoardRig.Uf2
