/-
What a UF2 file says as a whole.

A file is consistent when it is a positive number of whole frames, all of
them acceptable, when the frames stand in the order of their indices, and
when every frame gives the true count of frames and the same family. Of such
a file the summary tells the range of addresses and the payload in total.
-/
import BoardRig.Uf2.Block

namespace BoardRig.Uf2

/-- The summary of a consistent file. -/
structure Summary where
  blocks : Nat
  family : UInt32
  /-- The lowest address of a payload. -/
  startAddress : Nat
  /-- One past the highest address of a payload. -/
  endAddress : Nat
  payloadBytes : Nat
deriving DecidableEq, Repr

namespace Summary

/-- The frames of a file, the last of which may be short. -/
def frames (file : Bytes) : List Bytes :=
  chunks frameSize (by decide) file

/-- Check the block at place `i` of a file of `count` blocks. -/
def checkBlock (count : Nat) (family : UInt32) (i : Nat) (b : Block) : Except Fault Unit :=
  if b.index.toNat ≠ i then .error (.index i b.index)
  else if b.count.toNat ≠ count then .error (.count i b.count count)
  else if b.family ≠ family then .error (.family i b.family family)
  else .ok ()

/-- Check the blocks from place `i` on. -/
def checkFrom (count : Nat) (family : UInt32) : (i : Nat) → List Block → Except Fault Unit
  | _, [] => .ok ()
  | i, b :: rest => do
    checkBlock count family i b
    checkFrom count family (i + 1) rest

/-- The summary of blocks that agree in their family. -/
def ofBlocks (family : UInt32) (blocks : List Block) : Summary where
  blocks := blocks.length
  family
  startAddress := blocks.foldl (fun low b => min low b.address.toNat) (Nat.pow 2 32 - 1)
  endAddress := blocks.foldl (fun high b => max high b.endAddress) 0
  payloadBytes := blocks.foldl (fun n b => n + b.payloadSize.toNat) 0

def ofFile (file : Bytes) : Except Fault Summary :=
  if file.isEmpty ∨ file.length % frameSize ≠ 0 then .error (.fileLength file.length)
  else do
    let blocks ← (frames file).mapM Block.ofFrame
    match blocks with
    | [] => .error (.fileLength file.length)
    | first :: _ =>
      checkFrom blocks.length first.family 0 blocks
      return ofBlocks first.family blocks

end Summary

end BoardRig.Uf2
