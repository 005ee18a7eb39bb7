/-
# `BoardRig.Proofs.Uf2.Frame` — the frame of a block reads as that block

A word of 32 bits is the sum of its four bytes with the weights `2 ^ 0`,
`2 ^ 8`, `2 ^ 16` and `2 ^ 24` (`toNat_wordOf`), and so the bytes of a word
and the word of four bytes are inverse to each other.

Cutting a list into pieces of one size loses nothing (`flatten_chunks`), the
number of pieces is the length divided by the size and rounded up
(`length_chunks`), and what was put together from parts of one size is cut
into just these parts again (`chunks_flatMap`).

The frame of a block is its eight words, its data and the mark at the end.
Each part is found again where the reader looks for it, and so a block whose
payload fits its data is the block that its frame holds (`ofFrame_toFrame`).
-/
import BoardRig.Proofs.Ceiling
import BoardRig.Uf2.Summary
import Mathlib.Tactic.Ring

namespace BoardRig.Uf2

/-! ## Words -/

/-- Setting the bits of a byte above those of a number adds them. -/
theorem or_shiftLeft_byte {low k : Nat} (b : UInt8) (hk : k ≤ 24) (hl : low < 2 ^ k) :
    low ||| (b.toNat <<< k) % 2 ^ 32 = low + 2 ^ k * b.toNat := by
  have hb : b.toNat <<< k < 2 ^ 32 := by
    rw [Nat.shiftLeft_eq]
    calc b.toNat * 2 ^ k < 2 ^ 8 * 2 ^ k :=
          Nat.mul_lt_mul_of_pos_right b.toNat_lt (Nat.two_pow_pos k)
      _ ≤ 2 ^ 8 * 2 ^ 24 := Nat.mul_le_mul_left _ (Nat.pow_le_pow_right (by decide) hk)
      _ = 2 ^ 32 := rfl
  rw [Nat.mod_eq_of_lt hb, Nat.or_comm, ← Nat.shiftLeft_add_eq_or_of_lt hl, Nat.shiftLeft_eq]
  ring

theorem toNat_wordOf (a b c d : UInt8) (rest : Bytes) :
    (wordOf (a :: b :: c :: d :: rest)).toNat
      = a.toNat + 2 ^ 8 * b.toNat + 2 ^ 16 * c.toNat + 2 ^ 24 * d.toNat := by
  have ha := a.toNat_lt
  have hb := b.toNat_lt
  have hc := c.toNat_lt
  simp only [wordOf, UInt32.toNat_or, UInt32.toNat_shiftLeft, UInt8.toNat_toUInt32,
    show UInt32.toNat 8 % 32 = 8 from rfl, show UInt32.toNat 16 % 32 = 16 from rfl,
    show UInt32.toNat 24 % 32 = 24 from rfl]
  rw [or_shiftLeft_byte b (by omega) ha, or_shiftLeft_byte c (by omega) (by omega),
    or_shiftLeft_byte d (by omega) (by omega)]

theorem wordOf_wordBytes (w : UInt32) (rest : Bytes) : wordOf (wordBytes w ++ rest) = w := by
  have hw := w.toNat_lt
  apply UInt32.toNat_inj.mp
  simp only [wordBytes, List.cons_append, List.nil_append, toNat_wordOf, UInt32.toNat_toUInt8,
    UInt32.toNat_shiftRight, Nat.shiftRight_eq_div_pow, show UInt32.toNat 8 % 32 = 8 from rfl,
    show UInt32.toNat 16 % 32 = 16 from rfl, show UInt32.toNat 24 % 32 = 24 from rfl]
  omega

theorem wordBytes_wordOf (a b c d : UInt8) (rest : Bytes) :
    wordBytes (wordOf (a :: b :: c :: d :: rest)) = [a, b, c, d] := by
  have ha := a.toNat_lt
  have hb := b.toNat_lt
  have hc := c.toNat_lt
  have hd := d.toNat_lt
  have value := toNat_wordOf a b c d rest
  generalize wordOf (a :: b :: c :: d :: rest) = w at value
  simp only [wordBytes, List.cons.injEq, and_true, ← UInt8.toNat_inj, UInt32.toNat_toUInt8,
    UInt32.toNat_shiftRight, Nat.shiftRight_eq_div_pow, show UInt32.toNat 8 % 32 = 8 from rfl,
    show UInt32.toNat 16 % 32 = 16 from rfl, show UInt32.toNat 24 % 32 = 24 from rfl]
  omega

theorem wordAt_flatMap (ws : List UInt32) (rest : Bytes) (i : Nat) (h : i < ws.length) :
    wordAt (4 * i) (ws.flatMap wordBytes ++ rest) = ws[i] := by
  induction ws generalizing i with
  | nil => exact absurd h (Nat.not_lt_zero i)
  | cons w ws ih =>
      rw [List.flatMap_cons, List.append_assoc]
      cases i with
      | zero => exact wordOf_wordBytes w _
      | succ i =>
          have hdrop : (wordBytes w ++ (ws.flatMap wordBytes ++ rest)).drop (4 * (i + 1))
              = (ws.flatMap wordBytes ++ rest).drop (4 * i) := by
            rw [Nat.mul_succ, Nat.add_comm, ← List.drop_drop,
              List.drop_left' (wordBytes_length w)]
          rw [wordAt, hdrop, List.getElem_cons_succ]
          exact ih i (Nat.lt_of_succ_lt_succ h)

/-! ## Pieces

The inductions go piece by piece from the front, as the cutting does. -/

section Pieces

variable {α β : Type} {size : Nat} (positive : 0 < size)

theorem flatten_chunks (xs : List α) : (chunks size positive xs).flatten = xs := by
  fun_induction chunks size positive xs with
  | case1 => rfl
  | case2 x rest ih => rw [List.flatten_cons, ih, List.take_append_drop]

theorem length_chunks (xs : List α) :
    (chunks size positive xs).length = xs.length ⌈/⌉ size := by
  fun_induction chunks size positive xs with
  | case1 => exact (zero_ceilDiv size).symm
  | case2 x rest ih =>
      rw [List.length_cons, ih, List.length_drop]
      exact (ceilDiv_eq_sub_add_one positive (Nat.succ_pos rest.length)).symm

theorem length_le_of_mem_chunks {xs c : List α} (h : c ∈ chunks size positive xs) :
    c.length ≤ size := by
  fun_induction chunks size positive xs with
  | case1 => exact absurd h List.not_mem_nil
  | case2 x rest ih =>
      rcases List.mem_cons.mp h with rfl | h
      · exact List.length_take_le size (x :: rest)
      · exact ih h

theorem chunks_flatMap (f : α → List β) (xs : List α) (h : ∀ x ∈ xs, (f x).length = size) :
    chunks size positive (xs.flatMap f) = xs.map f := by
  induction xs with
  | nil => exact chunks_nil size positive
  | cons x xs ih =>
      have hx : (f x).length = size := h x List.mem_cons_self
      have hne : (x :: xs).flatMap f ≠ [] := by
        rw [List.flatMap_cons]
        exact List.append_ne_nil_of_left_ne_nil
          (List.ne_nil_of_length_pos (hx.symm ▸ positive)) _
      rw [chunks_of_ne_nil positive hne, List.flatMap_cons, List.take_left' hx,
        List.drop_left' hx, ih fun y hy => h y (List.mem_cons_of_mem x hy), List.map_cons]

/-- Filling each piece up to the size fills up the whole to a multiple of it:
only the last piece can be short. -/
theorem flatMap_chunks_fill (z : α) (xs : List α) :
    (chunks size positive xs).flatMap (fun c => c ++ List.replicate (size - c.length) z)
      = xs ++ List.replicate (xs.length ⌈/⌉ size * size - xs.length) z := by
  fun_induction chunks size positive xs with
  | case1 => simp
  | case2 x rest ih =>
      generalize hxs : x :: rest = xs at *
      have hpos : 0 < xs.length := hxs ▸ Nat.succ_pos rest.length
      rw [List.flatMap_cons, ih, ceilDiv_eq_sub_add_one positive hpos, List.length_drop]
      rcases Nat.le_total xs.length size with hle | hge
      · simp [List.take_of_length_le hle, List.drop_of_length_le hle, Nat.sub_eq_zero_of_le hle]
      · have hfull : (xs.take size).length = size := List.length_take_of_le hge
        rw [hfull, Nat.sub_self, List.replicate_zero, List.append_nil, ← List.append_assoc,
          List.take_append_drop, Nat.succ_mul]
        congr 2
        omega

end Pieces

end BoardRig.Uf2

namespace BoardRig.Uf2.Block

theorem headerBytes_length (b : Block) : (b.header.flatMap wordBytes).length = headerSize := by
  simp [header, headerSize]

/-! ## The parts of a frame

Offsets into a frame are offsets into the part that lies there. -/

theorem wordAt_toFrame (b : Block) (i : Nat) (h : i < 8) :
    wordAt (4 * i) b.toFrame = b.header[i] := by
  rw [toFrame, List.append_assoc]
  exact wordAt_flatMap b.header _ i h

theorem wordAt_end_toFrame (b : Block) : wordAt (frameSize - footerSize) b.toFrame = endMark := by
  have hlen : (b.header.flatMap wordBytes ++ b.data).length = frameSize - footerSize := by
    rw [List.length_append, headerBytes_length, b.data_length]
    rfl
  rw [wordAt, toFrame, List.drop_left' hlen]
  rfl

theorem dataOf_toFrame (b : Block) : dataOf b.toFrame = b.data := by
  rw [dataOf, toFrame, List.append_assoc, List.drop_left' b.headerBytes_length,
    List.take_left' b.data_length]

theorem getElem?_toFrame (b : Block) {k : Nat} (h : k < dataSize) :
    b.toFrame[headerSize + k]? = b.data[k]? := by
  have hk : k < b.data.length := b.data_length.symm ▸ h
  rw [toFrame, List.append_assoc, List.getElem?_append_right (by rw [headerBytes_length]; omega),
    headerBytes_length, Nat.add_sub_cancel_left, List.getElem?_append_left hk]

/-! ## Reading it back -/

theorem ofFrame_toFrame (b : Block) (h : b.payloadSize.toNat ≤ dataSize) :
    ofFrame b.toFrame = .ok b := by
  have first : wordAt 0 b.toFrame = startMark := b.wordAt_toFrame 0 (by decide)
  have second : wordAt 4 b.toFrame = secondMark := b.wordAt_toFrame 1 (by decide)
  have flags : wordAt 8 b.toFrame = b.flags := b.wordAt_toFrame 2 (by decide)
  have address : wordAt 12 b.toFrame = b.address := b.wordAt_toFrame 3 (by decide)
  have size : wordAt 16 b.toFrame = b.payloadSize := b.wordAt_toFrame 4 (by decide)
  have index : wordAt 20 b.toFrame = b.index := b.wordAt_toFrame 5 (by decide)
  have count : wordAt 24 b.toFrame = b.count := b.wordAt_toFrame 6 (by decide)
  have family : wordAt 28 b.toFrame = b.family := b.wordAt_toFrame 7 (by decide)
  simp only [ofFrame, b.toFrame_length, dif_pos, first, second, flags, address, size, index,
    count, family, b.wordAt_end_toFrame, b.dataOf_toFrame, ne_eq, not_true_eq_false, or_self,
    if_false, if_neg (Nat.not_lt.mpr h)]

theorem mapM_ofFrame_map_toFrame (bs : List Block)
    (h : ∀ b ∈ bs, b.payloadSize.toNat ≤ dataSize) :
    (bs.map toFrame).mapM ofFrame = .ok bs := by
  induction bs with
  | nil => rfl
  | cons b bs ih =>
      rw [List.map_cons, List.mapM_cons, ofFrame_toFrame b (h b List.mem_cons_self),
        ih fun c hc => h c (List.mem_cons_of_mem b hc)]
      rfl

theorem length_flatMap_toFrame (bs : List Block) :
    (bs.flatMap toFrame).length = bs.length * frameSize := by
  induction bs with
  | nil => rfl
  | cons b bs ih =>
      rw [List.flatMap_cons, List.length_append, b.toFrame_length, ih, List.length_cons,
        Nat.succ_mul, Nat.add_comm]

theorem frames_flatMap_toFrame (bs : List Block) :
    Summary.frames (bs.flatMap toFrame) = bs.map toFrame :=
  chunks_flatMap _ toFrame bs fun b _ => b.toFrame_length

end BoardRig.Uf2.Block
