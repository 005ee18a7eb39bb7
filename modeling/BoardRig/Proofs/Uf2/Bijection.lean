/-
# `BoardRig.Proofs.Uf2.Bijection` — frames and blocks, one for one

What makes bytes a frame is said without the reader (`IsFrame`): their number,
the three marks in their places, and a payload that fits the data.  The reader
accepts just these bytes (`exists_ofFrame_iff`).  It takes all of them into the
block, so that writing the block gives the bytes back (`toFrame_of_ofFrame`),
and a block whose payload fits is read back from its frame
(`ofFrame_toFrame`).  Frames and such blocks are therefore the same, one for one
(`ofFrame_inverts_toFrame`).
-/
import BoardRig.Proofs.Uf2.Frame
import Mathlib.Data.Nat.Digits.Defs
import Mathlib.Data.Set.Function

namespace BoardRig.Uf2

/-! ## Words in their places

A word and the four bytes at its place determine each other. -/

/-- The number that the four bytes at an offset give, the low byte first. -/
def numberAt (offset : Nat) (bs : Bytes) : Nat :=
  Nat.ofDigits 256 (((bs.drop offset).take 4).map UInt8.toNat)

section Words

variable {bs : Bytes} {offset : Nat}

theorem exists_four (h : offset + 4 ≤ bs.length) :
    ∃ a b c d rest, bs.drop offset = a :: b :: c :: d :: rest := by
  have long : 4 ≤ (bs.drop offset).length := by
    rw [List.length_drop]
    omega
  match hbs : bs.drop offset with
  | a :: b :: c :: d :: rest => exact ⟨a, b, c, d, rest, rfl⟩
  | [] | [_] | [_, _] | [_, _, _] =>
      rw [hbs] at long
      simp at long

theorem toNat_wordAt (h : offset + 4 ≤ bs.length) :
    (wordAt offset bs).toNat = numberAt offset bs := by
  obtain ⟨a, b, c, d, rest, hbs⟩ := exists_four h
  rw [wordAt, numberAt, hbs, toNat_wordOf]
  simp only [List.take_succ_cons, List.take_zero, List.map_cons, List.map_nil, Nat.ofDigits_cons,
    Nat.ofDigits_nil]
  omega

theorem wordAt_eq_iff (h : offset + 4 ≤ bs.length) (w : UInt32) :
    wordAt offset bs = w ↔ numberAt offset bs = w.toNat := by
  rw [← toNat_wordAt h, UInt32.toNat_inj]

theorem wordBytes_wordAt (h : offset + 4 ≤ bs.length) :
    wordBytes (wordAt offset bs) = (bs.drop offset).take 4 := by
  obtain ⟨a, b, c, d, rest, hbs⟩ := exists_four h
  rw [wordAt, hbs, wordBytes_wordOf]
  rfl

theorem flatMap_wordBytes_wordAt (n : Nat) (h : 4 * n ≤ bs.length) :
    ((List.range n).map fun i => wordAt (4 * i) bs).flatMap wordBytes = bs.take (4 * n) := by
  induction n with
  | zero => rfl
  | succ n ih =>
      rw [List.range_succ, List.map_append, List.flatMap_append, ih (by omega), List.map_singleton,
        List.flatMap_singleton, wordBytes_wordAt (by omega), Nat.mul_succ, List.take_add]

end Words

namespace Block

/-! ## Frames

A frame is determined by what the reader takes from it: header, data and marks
leave no byte out. -/

/-- What makes bytes a frame: their number, the marks in their places, and a payload
that fits the data. -/
structure IsFrame (frame : Bytes) : Prop where
  length : frame.length = 512
  first : numberAt 0 frame = startMark.toNat
  second : numberAt 4 frame = secondMark.toNat
  fits : numberAt 16 frame ≤ 476
  last : numberAt 508 frame = endMark.toNat

variable {frame : Bytes} {b : Block}

/-- What the reader has found out about a frame, and what it took from it. -/
structure Read (frame : Bytes) (b : Block) : Prop where
  length : frame.length = frameSize
  header : b.header = (List.range 8).map fun i => wordAt (4 * i) frame
  data : b.data = dataOf frame
  last : wordAt (frameSize - footerSize) frame = endMark
  fits : b.payloadSize.toNat ≤ dataSize

theorem read_of_ofFrame (h : ofFrame frame = .ok b) : Read frame b := by
  simp only [ofFrame] at h
  split at h
  · next length =>
    split at h
    · cases h
    · next start =>
      obtain ⟨first, second⟩ := not_or.mp start
      split at h
      · cases h
      · next last =>
        split at h
        · cases h
        · next fits =>
          cases h
          refine ⟨length, ?_, rfl, not_not.mp last, Nat.le_of_not_lt fits⟩
          rw [header, ← not_not.mp first, ← not_not.mp second]
          rfl
  · cases h

/-- Nothing of a frame is lost in its block. -/
theorem toFrame_of_ofFrame (h : ofFrame frame = .ok b) : b.toFrame = frame := by
  obtain ⟨length, header, data, last, -⟩ := read_of_ofFrame h
  have long : ∀ {n : Nat}, n ≤ 512 → n ≤ frame.length := fun hn => length.symm ▸ hn
  have tail : (frame.drop 508).take 4 = frame.drop 508 :=
    List.take_of_length_le (by rw [List.length_drop, length, frameSize])
  calc b.toFrame
      = frame.take 32 ++ dataOf frame ++ (frame.drop 508).take 4 := by
        rw [toFrame, header, flatMap_wordBytes_wordAt 8 (long (by decide)), data, ← last,
          wordBytes_wordAt (long (by decide))]
        rfl
    _ = frame.take (32 + 476) ++ frame.drop 508 := by
        rw [tail, List.take_add]
        rfl
    _ = frame := List.take_append_drop 508 frame

theorem exists_ofFrame_iff : (∃ b, ofFrame frame = .ok b) ↔ IsFrame frame := by
  constructor
  · rintro ⟨b, h⟩
    have read := read_of_ofFrame h
    have marked : ∀ i (hi : i < 8), numberAt (4 * i) frame = b.header[i].toNat := by
      intro i hi
      rw [← toNat_wordAt (by rw [read.length, frameSize]; omega)]
      simp only [read.header, List.getElem_map, List.getElem_range]
    refine ⟨read.length, marked 0 (by decide), marked 1 (by decide), ?_, ?_⟩
    · exact (marked 4 (by decide)).trans_le read.fits
    · exact (wordAt_eq_iff (by rw [read.length, frameSize]) endMark).mp read.last
  · intro h
    have placed : ∀ {offset : Nat}, offset + 4 ≤ 512 → offset + 4 ≤ frame.length :=
      fun hle => h.length.symm ▸ hle
    have first := (wordAt_eq_iff (placed (by decide)) startMark).mpr h.first
    have second := (wordAt_eq_iff (placed (by decide)) secondMark).mpr h.second
    have last : wordAt (frameSize - footerSize) frame = endMark :=
      (wordAt_eq_iff (placed (by decide)) endMark).mpr h.last
    have fits : (wordAt 16 frame).toNat ≤ dataSize :=
      (toNat_wordAt (placed (by decide))).trans_le h.fits
    simp only [ofFrame, dif_pos (show frame.length = frameSize from h.length), first, second,
      last, ne_eq, not_true_eq_false, or_self, if_false, if_neg (Nat.not_lt.mpr fits)]
    exact ⟨_, rfl⟩

/-- Frames and the blocks whose payload fits are the same, one for one: the reader
accepts the frames, all of them and nothing else, and reading and writing undo each
other. -/
theorem ofFrame_inverts_toFrame :
    (∀ frame, (∃ b, ofFrame frame = .ok b) ↔ IsFrame frame) ∧
      (∀ frame b, ofFrame frame = .ok b → b.toFrame = frame) ∧
      (∀ b : Block, b.payloadSize.toNat ≤ 476 → ofFrame b.toFrame = .ok b) ∧
      Set.BijOn toFrame {b | b.payloadSize.toNat ≤ 476} {frame | IsFrame frame} := by
  refine ⟨fun frame => exists_ofFrame_iff, fun frame b => toFrame_of_ofFrame, ofFrame_toFrame,
    ?_, ?_, ?_⟩
  · intro b fits
    exact exists_ofFrame_iff.mp ⟨b, b.ofFrame_toFrame fits⟩
  · intro b fits b' fits' same
    have read := b.ofFrame_toFrame fits
    rw [same, b'.ofFrame_toFrame fits'] at read
    exact (Except.ok.inj read).symm
  · intro frame h
    obtain ⟨b, read⟩ := exists_ofFrame_iff.mpr h
    exact ⟨b, (read_of_ofFrame read).fits, toFrame_of_ofFrame read⟩

/-- A block that is full to the last byte, with every flag set and in an impossible
place. -/
def brimful : Block :=
  ⟨0xFFFFFFFF, 0xFFFFFFFE, 476, 7, 3, 0, List.replicate 476 0xA5, List.length_replicate⟩

theorem ofFrame_inverts_toFrame_of_brimful :
    brimful.payloadSize.toNat ≤ 476 ∧ ofFrame brimful.toFrame = .ok brimful ∧
      IsFrame brimful.toFrame ∧ ¬ ∃ b, ofFrame (brimful.toFrame.drop 1) = .ok b := by
  have fits : brimful.payloadSize.toNat ≤ 476 := by decide
  obtain ⟨accepted, -, read, bijective⟩ := ofFrame_inverts_toFrame
  refine ⟨fits, read brimful fits, bijective.mapsTo fits, fun short => ?_⟩
  have short := ((accepted _).mp short).length
  rw [List.length_drop, toFrame_length] at short
  cases short

end Block

end BoardRig.Uf2
