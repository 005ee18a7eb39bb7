/-
# `BoardRig.Proofs.Uf2.Lossless` — an image comes back from its UF2 file

What is written for an image is read back block by block: the frames are
those of the blocks, each block says where it stands, and the payloads joined
are the image and the zeros that fill up its last piece.  All of it is
gathered in `Lossless`, and `writeTo_lossless` says that every encoder that
can be set up has it for every image with fewer than `2 ^ 32` pieces.

The bound is needed for the indices and the count alone, which are words.
Addresses wrap around, with or without it.
-/
import BoardRig.Proofs.Uf2.Frame
import BoardRig.Uf2.Encoder

namespace BoardRig.Uf2.Encoder

/-! ## Payload sizes -/

theorem withPayloadSize_eq_ok (e : Encoder) {size : Nat} (h : 0 < size) (h' : size ≤ dataSize) :
    e.withPayloadSize size
      = .ok { e with payloadSize := size, payloadSize_pos := h, payloadSize_le := h' } := by
  rw [withPayloadSize, dif_pos ⟨h, h'⟩]

variable (e : Encoder)

theorem toNat_payloadSize : (UInt32.ofNat e.payloadSize).toNat = e.payloadSize := by
  have h := e.payloadSize_le
  rw [dataSize] at h
  exact UInt32.toNat_ofNat_of_lt' (by rw [UInt32.size]; omega)

/-! ## One piece -/

theorem take_pad {piece : Bytes} {size : Nat} (h : piece.length ≤ size) (h' : size ≤ dataSize) :
    (pad piece).take size = piece ++ List.replicate (size - piece.length) 0 := by
  rw [pad, List.take_take, Nat.min_eq_left h', List.take_append, List.take_of_length_le h,
    List.take_replicate, Nat.min_eq_left (by omega)]

theorem getElem?_pad {piece : Bytes} {k : Nat} (h : piece.length ≤ k) (h' : k < dataSize) :
    (pad piece)[k]? = some 0 := by
  rw [pad, List.getElem?_take_of_lt h', List.getElem?_append_right h,
    List.getElem?_replicate_of_lt (by omega)]

variable (base : UInt32) (count i : Nat) {piece : Bytes}

theorem payload_block (h : piece.length ≤ e.payloadSize) :
    (e.block base count i piece).payload
      = piece ++ List.replicate (e.payloadSize - piece.length) 0 := by
  rw [Block.payload, block, toNat_payloadSize]
  exact take_pad h e.payloadSize_le

theorem getElem?_toFrame_block (h : piece.length ≤ e.payloadSize) {k : Nat}
    (hk : headerSize + e.payloadSize ≤ k) (hk' : k < frameSize - footerSize) :
    (e.block base count i piece).toFrame[k]? = some 0 := by
  have hend : frameSize - footerSize = headerSize + dataSize := rfl
  obtain ⟨j, rfl⟩ := Nat.exists_eq_add_of_le (Nat.le_of_add_right_le hk)
  rw [Block.getElem?_toFrame _ (by omega)]
  exact getElem?_pad (by omega) (by omega)

/-- The words of the block at a place below `2 ^ 32` in a file of fewer than
`2 ^ 32` blocks. -/
theorem header_block (hi : i < 2 ^ 32) (hc : count < 2 ^ 32) :
    let b := e.block base count i piece
    b.flags = familyFlag ∧ b.address.toNat = (base.toNat + i * e.payloadSize) % 2 ^ 32 ∧
      b.payloadSize.toNat = e.payloadSize ∧ b.index.toNat = i ∧ b.count.toNat = count ∧
      b.family = e.family := by
  refine ⟨rfl, ?_, e.toNat_payloadSize, UInt32.toNat_ofNat_of_lt' hi,
    UInt32.toNat_ofNat_of_lt' hc, rfl⟩
  rw [block, UInt32.toNat_add, UInt32.toNat_ofNat', Nat.add_mod_mod]

/-! ## The blocks of an image

Each block comes from a piece and an index, and the payloads joined are the
pieces joined. -/

variable (image : Image)

theorem length_encode : (e.encode image).length = image.data.length ⌈/⌉ e.payloadSize := by
  rw [encode, List.length_mapIdx, length_chunks]

theorem exists_piece_of_getElem? {b : Block} (h : (e.encode image)[i]? = some b) :
    ∃ piece : Bytes, piece.length ≤ e.payloadSize ∧
      b = e.block image.base (image.data.length ⌈/⌉ e.payloadSize) i piece := by
  rw [encode, List.getElem?_mapIdx] at h
  obtain ⟨piece, hpiece, rfl⟩ := Option.map_eq_some_iff.mp h
  exact ⟨piece, length_le_of_mem_chunks _ (List.mem_of_getElem? hpiece), rfl⟩

theorem payloadSize_of_mem_encode {b : Block} (h : b ∈ e.encode image) :
    b.payloadSize.toNat = e.payloadSize := by
  obtain ⟨i, hi⟩ := List.mem_iff_getElem?.mp h
  obtain ⟨piece, -, rfl⟩ := e.exists_piece_of_getElem? i image hi
  exact e.toNat_payloadSize

/-- The payloads of the blocks are the image and what fills up its last piece. -/
theorem flatMap_payload_encode :
    (e.encode image).flatMap Block.payload
      = image.data ++ List.replicate
          (image.data.length ⌈/⌉ e.payloadSize * e.payloadSize - image.data.length) 0 := by
  rw [← flatMap_chunks_fill e.payloadSize_pos, List.flatMap_def, List.flatMap_def]
  congr 1
  refine List.ext_getElem (by simp [encode]) fun i _ hi => ?_
  rw [List.length_map] at hi
  simp only [encode, List.getElem_map, List.getElem_mapIdx]
  exact e.payload_block _ _ _ (length_le_of_mem_chunks _ (List.getElem_mem hi))

/-! ## The file of an image -/

theorem fileOf_eq : e.fileOf image = (e.encode image).flatMap Block.toFrame :=
  List.nil_append _

theorem frames_fileOf : Summary.frames (e.fileOf image) = (e.encode image).map Block.toFrame := by
  rw [fileOf_eq, Block.frames_flatMap_toFrame]

/-- What an encoder of `size` bytes a block owes to an image of `n` pieces. -/
structure Lossless (e : Encoder) (size n : Nat) (image : Image) : Prop where
  /-- Writing yields the number of blocks. -/
  count : (e.writeTo image []).1 = n
  /-- Writing emits as many frames, and none for an image without bytes. -/
  length : (e.writeTo image []).2.length = n * 512
  empty : image.data = [] → (e.writeTo image []).2 = []
  /-- The frames are read as the blocks, in order. -/
  read : (Summary.frames (e.writeTo image []).2).mapM Block.ofFrame = .ok (e.encode image)
  blocks : (e.encode image).length = n
  /-- Each block says where it stands. -/
  header : ∀ i b, (e.encode image)[i]? = some b →
    b.flags = familyFlag ∧ b.address.toNat = (image.base.toNat + i * size) % 2 ^ 32 ∧
      b.payloadSize.toNat = size ∧ b.index.toNat = i ∧ b.count.toNat = n ∧ b.family = e.family
  /-- The payloads are the image, filled up by less than a payload of zeros. -/
  payload : (e.encode image).flatMap Block.payload
    = image.data ++ List.replicate (n * size - image.data.length) 0
  covered : image.data.length ≤ n * size
  filling : n * size - image.data.length < size
  /-- Between payload and end mark a frame holds only zeros. -/
  gap : ∀ frame ∈ Summary.frames (e.writeTo image []).2, ∀ k,
    32 + size ≤ k → k < 508 → frame[k]? = some 0

theorem lossless (few : image.data.length ⌈/⌉ e.payloadSize < 2 ^ 32) :
    Lossless e e.payloadSize (image.data.length ⌈/⌉ e.payloadSize) image := by
  have hlength := e.length_encode image
  have hbound : ∀ b ∈ e.encode image, b.payloadSize.toNat ≤ dataSize := fun b hb =>
    (e.payloadSize_of_mem_encode image hb).symm ▸ e.payloadSize_le
  have hframes : Summary.frames (e.writeTo image []).2 = (e.encode image).map Block.toFrame :=
    e.frames_fileOf image
  have hfile : (e.writeTo image []).2 = (e.encode image).flatMap Block.toFrame :=
    e.fileOf_eq image
  exact {
    count := hlength
    length := by rw [hfile, Block.length_flatMap_toFrame, hlength]; rfl
    empty := fun h => by rw [hfile, encode, h, chunks_nil]; rfl
    read := by rw [hframes, Block.mapM_ofFrame_map_toFrame _ hbound]
    blocks := hlength
    header := fun i b hb => by
      have hi := (List.getElem?_eq_some_iff.mp hb).1
      rw [hlength] at hi
      obtain ⟨piece, -, rfl⟩ := e.exists_piece_of_getElem? i image hb
      exact e.header_block image.base _ i (hi.trans few) few
    payload := e.flatMap_payload_encode image
    covered := le_ceilDiv_mul e.payloadSize_pos
    filling := by
      have := ceilDiv_mul_lt (n := image.data.length) e.payloadSize_pos
      have := e.payloadSize_pos
      omega
    gap := fun frame hframe k hk hk' => by
      rw [hframes] at hframe
      obtain ⟨b, hb, rfl⟩ := List.mem_map.mp hframe
      obtain ⟨i, hi⟩ := List.mem_iff_getElem?.mp hb
      obtain ⟨piece, hpiece, rfl⟩ := e.exists_piece_of_getElem? i image hi
      exact e.getElem?_toFrame_block _ _ _ hpiece hk hk' }

/-- Every encoder that can be set up gives images back. -/
theorem writeTo_lossless (family : UInt32) (size n : Nat) (image : Image)
    (positive : 1 ≤ size) (fits : size ≤ 476) (pieces : image.data.length ⌈/⌉ size = n)
    (few : n < 2 ^ 32) :
    ∃ e, (ofFamily family).withPayloadSize size = .ok e ∧ e.family = family ∧
      Lossless e size n image := by
  subst pieces
  exact ⟨_, (ofFamily family).withPayloadSize_eq_ok positive fits, rfl, lossless _ image few⟩

/-- The largest payload, an image one byte longer than it, and addresses that
wrap around between its two blocks. -/
theorem writeTo_lossless_of_two_blocks :
    (1 ≤ 476 ∧ 476 ≤ 476 ∧
      (⟨List.replicate 477 7, 0xFFFFFF00⟩ : Image).data.length ⌈/⌉ 476 = 2 ∧ 2 < 2 ^ 32) ∧
      ∃ e, (ofFamily 5).withPayloadSize 476 = .ok e ∧ e.family = 5 ∧
        Lossless e 476 2 ⟨List.replicate 477 7, 0xFFFFFF00⟩ := by
  have pieces : (⟨List.replicate 477 7, 0xFFFFFF00⟩ : Image).data.length ⌈/⌉ 476 = 2 := by
    dsimp only
    rw [List.length_replicate]
    rfl
  exact ⟨⟨by decide, by decide, pieces, by decide⟩,
    writeTo_lossless 5 476 2 ⟨List.replicate 477 7, 0xFFFFFF00⟩ (by decide) (by decide) pieces
      (by decide)⟩

end BoardRig.Uf2.Encoder
