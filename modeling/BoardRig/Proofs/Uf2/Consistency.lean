/-
# `BoardRig.Proofs.Uf2.Consistency` — which files are summed up, and as what

A file is accepted exactly when it is a positive number of whole frames, each
frame holds a block, and the blocks are `Consistent`: each one stands at its
index, knows how many there are, and is of the one family.  The summary is
then the one that `Describes` them (`ofFile_eq_ok_iff_holds`).

Indices and counts together pin the order down: no other list of frames taken
from an accepted file is accepted (`eq_frames_of_ofFile_flatten`), be it that
frames are missing, stand twice or have changed places.
-/
import BoardRig.Proofs.Outcome
import BoardRig.Proofs.Uf2.Frame
import Mathlib.Order.Bounds.Basic

namespace BoardRig.Uf2

/-! ## Least and greatest values

A fold with `min` or `max` from a start that is no better than the list gives the
extreme value of the list. -/

section Extremes

variable {α β : Type} [LinearOrder α] (f : β → α)

/-- The smaller and smaller values of a fold end at the least one there is,
that from which the fold starts included. -/
theorem isLeast_insert_foldl_min (start : α) (l : List β) :
    IsLeast (insert start {a | ∃ b ∈ l, f b = a})
      (l.foldl (fun low b => min low (f b)) start) := by
  induction l generalizing start with
  | nil => exact ⟨Set.mem_insert _ _, by simp [lowerBounds]⟩
  | cons b l ih =>
      obtain ⟨hmem, hle⟩ := ih (min start (f b))
      have hmin : l.foldl (fun low b => min low (f b)) (min start (f b)) ≤ min start (f b) :=
        hle (Set.mem_insert _ _)
      refine ⟨?_, ?_⟩
      · rcases hmem with hstart | ⟨c, hc, hfc⟩
        · rcases min_choice start (f b) with h | h
          · exact .inl (hstart.trans h)
          · exact .inr ⟨b, List.mem_cons_self, (hstart.trans h).symm⟩
        · exact .inr ⟨c, List.mem_cons_of_mem b hc, hfc⟩
      · rintro a (rfl | ⟨c, hc, rfl⟩)
        · exact hmin.trans (min_le_left _ _)
        · rcases List.mem_cons.mp hc with rfl | hc
          · exact hmin.trans (min_le_right _ _)
          · exact hle (.inr ⟨c, hc, rfl⟩)

theorem isLeast_foldl_min {start : α} {l : List β} (hl : l ≠ []) (h : ∀ b ∈ l, f b ≤ start) :
    IsLeast {a | ∃ b ∈ l, f b = a} (l.foldl (fun low b => min low (f b)) start) := by
  obtain ⟨hmem, hle⟩ := isLeast_insert_foldl_min f start l
  obtain ⟨b, hb⟩ := List.exists_mem_of_ne_nil l hl
  refine ⟨?_, fun a ha => hle (.inr ha)⟩
  rcases hmem with hstart | hmem
  · exact ⟨b, hb, le_antisymm ((h b hb).trans hstart.ge) (hle (.inr ⟨b, hb, rfl⟩))⟩
  · exact hmem

end Extremes

theorem isGreatest_foldl_max {α β : Type} [LinearOrder α] (f : β → α) {start : α} {l : List β}
    (hl : l ≠ []) (h : ∀ b ∈ l, start ≤ f b) :
    IsGreatest {a | ∃ b ∈ l, f b = a} (l.foldl (fun high b => max high (f b)) start) :=
  isLeast_foldl_min (α := αᵒᵈ) f hl h

namespace Summary

/-! ## What a summary says

The summary in terms of the blocks, without the folds that compute it. -/

/-- Blocks that stand in the order of their indices, know how many they are,
and are of one family. -/
structure Consistent (family : UInt32) (bs : List Block) : Prop where
  index : ∀ (i : Nat) (b : Block), bs[i]? = some b → b.index.toNat = i
  count : ∀ b ∈ bs, b.count.toNat = bs.length
  family : ∀ b ∈ bs, b.family = family

/-- The summary tells how many blocks there are, their lowest address, the
highest end of a payload, and the bytes of all payloads. -/
structure Describes (s : Summary) (bs : List Block) : Prop where
  blocks : s.blocks = bs.length
  startAddress : IsLeast {a | ∃ b ∈ bs, b.address.toNat = a} s.startAddress
  endAddress : IsGreatest
    {a | ∃ b ∈ bs, min (b.address.toNat + b.payloadSize.toNat) (2 ^ 32 - 1) = a} s.endAddress
  payloadBytes : s.payloadBytes = (bs.map fun b => b.payloadSize.toNat).sum

theorem describes_ofBlocks (family : UInt32) {bs : List Block} (h : bs ≠ []) :
    Describes (ofBlocks family bs) bs where
  blocks := rfl
  startAddress := isLeast_foldl_min (fun b : Block => b.address.toNat) h fun b _ =>
    Nat.le_sub_one_of_lt b.address.toNat_lt
  endAddress := isGreatest_foldl_max Block.endAddress h fun _ _ => Nat.zero_le _
  payloadBytes := by rw [ofBlocks, List.sum_eq_foldl, List.foldl_map]

theorem Describes.eq_ofBlocks {s : Summary} {bs : List Block} (h : Describes s bs)
    (hne : bs ≠ []) : ofBlocks s.family bs = s := by
  have h' := describes_ofBlocks s.family hne
  have hlow := h'.startAddress.unique h.startAddress
  have hhigh := h'.endAddress.unique h.endAddress
  cases s with
  | mk count family low high bytes =>
      rw [ofBlocks, Summary.mk.injEq]
      refine ⟨?_, rfl, hlow, hhigh, ?_⟩
      · exact h.blocks.symm
      · exact h'.payloadBytes.trans h.payloadBytes.symm

/-! ## The checks

The checks run over the blocks with a counter; together they are consistency. -/

theorem checkBlock_eq_ok_iff {count i : Nat} {family : UInt32} {b : Block} :
    checkBlock count family i b = .ok () ↔
      b.index.toNat = i ∧ b.count.toNat = count ∧ b.family = family := by
  unfold checkBlock
  split
  · rename_i h
    exact ⟨fun hc => (nomatch hc), fun hc => absurd hc.1 h⟩
  · split
    · rename_i h
      exact ⟨fun hc => (nomatch hc), fun hc => absurd hc.2.1 h⟩
    · split
      · rename_i h
        exact ⟨fun hc => (nomatch hc), fun hc => absurd hc.2.2 h⟩
      · rename_i hi hc hf
        exact ⟨fun _ => ⟨not_not.mp hi, not_not.mp hc, not_not.mp hf⟩, fun _ => rfl⟩

/-- The blocks from some place on pass when each one passes at its own place. -/
theorem checkFrom_eq_ok_iff {count i : Nat} {family : UInt32} {bs : List Block} :
    checkFrom count family i bs = .ok () ↔
      ∀ (k : Nat) (b : Block), bs[k]? = some b → checkBlock count family (i + k) b = .ok () := by
  induction bs generalizing i with
  | nil => exact ⟨fun _ k b h => by simp at h, fun _ => rfl⟩
  | cons b bs ih =>
      rw [checkFrom, bind_eq_ok_iff]
      constructor
      · rintro ⟨_, hb, hrest⟩ k c hc
        cases k with
        | zero => exact Option.some.inj hc ▸ hb
        | succ k =>
            rw [← Nat.succ_add_eq_add_succ]
            exact ih.mp hrest k c hc
      · intro h
        refine ⟨(), h 0 b rfl, ih.mpr fun k c hc => ?_⟩
        rw [Nat.succ_add_eq_add_succ]
        exact h (k + 1) c hc

theorem checkFrom_eq_ok_iff_consistent {family : UInt32} {bs : List Block} :
    checkFrom bs.length family 0 bs = .ok () ↔ Consistent family bs := by
  simp only [checkFrom_eq_ok_iff, Nat.zero_add, checkBlock_eq_ok_iff]
  constructor
  · intro h
    refine ⟨fun i b hb => (h i b hb).1, fun b hb => ?_, fun b hb => ?_⟩
    · obtain ⟨i, hi⟩ := List.mem_iff_getElem?.mp hb
      exact (h i b hi).2.1
    · obtain ⟨i, hi⟩ := List.mem_iff_getElem?.mp hb
      exact (h i b hi).2.2
  · intro h i b hb
    have hmem := List.mem_of_getElem? hb
    exact ⟨h.index i b hb, h.count b hmem, h.family b hmem⟩

/-! ## Whole files

Frames are cut from a file by length alone, so a file holds one list of blocks. -/

/-- Whole frames, at least one, that hold the blocks of a list in order. -/
structure Holds (file : Bytes) (bs : List Block) : Prop where
  positive : 0 < file.length
  whole : frameSize ∣ file.length
  frames : List.Forall₂ (fun frame b => Block.ofFrame frame = .ok b) (frames file) bs

theorem Holds.length_eq {file : Bytes} {bs : List Block} (h : Holds file bs) :
    (Summary.frames file).length = bs.length :=
  h.frames.length_eq

theorem Holds.ne_nil {file : Bytes} {bs : List Block} (h : Holds file bs) : bs ≠ [] := by
  rintro rfl
  have hjoin := flatten_chunks (by decide : 0 < frameSize) file
  rw [← Summary.frames, List.forall₂_nil_right_iff.mp h.frames] at hjoin
  exact absurd h.positive (by rw [← hjoin]; decide)

theorem Holds.getElem? {file : Bytes} {bs : List Block} (h : Holds file bs) {i : Nat}
    {frame : Bytes} (hi : (Summary.frames file)[i]? = some frame) :
    ∃ b, bs[i]? = some b ∧ Block.ofFrame frame = .ok b := by
  obtain ⟨hlt, rfl⟩ := List.getElem?_eq_some_iff.mp hi
  have hlt' : i < bs.length := h.length_eq ▸ hlt
  refine ⟨bs[i], List.getElem?_eq_getElem hlt', ?_⟩
  exact (List.forall₂_iff_get.mp h.frames).2 i hlt hlt'

theorem Holds.unique {file : Bytes} {bs bs' : List Block} (h : Holds file bs)
    (h' : Holds file bs') : bs = bs' := by
  refine List.ext_getElem (h.length_eq.symm.trans h'.length_eq) fun i hi hi' => ?_
  have hframe := List.getElem?_eq_getElem (h.length_eq.symm ▸ hi)
  obtain ⟨b, hb, hof⟩ := h.getElem? hframe
  obtain ⟨b', hb', hof'⟩ := h'.getElem? hframe
  rw [List.getElem?_eq_getElem hi] at hb
  rw [List.getElem?_eq_getElem hi'] at hb'
  cases hb
  cases hb'
  exact Except.ok.inj (hof.symm.trans hof')

theorem holds_flatMap_toFrame {bs : List Block} (hne : bs ≠ [])
    (h : ∀ b ∈ bs, b.payloadSize.toNat ≤ dataSize) : Holds (bs.flatMap Block.toFrame) bs where
  positive := by
    rw [Block.length_flatMap_toFrame]
    exact Nat.mul_pos (List.length_pos_iff.mpr hne) (by decide)
  whole := by
    rw [Block.length_flatMap_toFrame]
    exact Nat.dvd_mul_left ..
  frames := by
    rw [Block.frames_flatMap_toFrame]
    exact mapM_eq_ok_iff.mp (Block.mapM_ofFrame_map_toFrame bs h)

/-- A file is accepted when its frames hold consistent blocks, and the summary
is the one that describes these. -/
theorem ofFile_eq_ok_iff_holds {file : Bytes} {s : Summary} :
    ofFile file = .ok s ↔ ∃ bs, Holds file bs ∧ Consistent s.family bs ∧ Describes s bs := by
  unfold ofFile
  split
  · rename_i h
    refine ⟨fun hc => (nomatch hc), fun ⟨bs, hf, _, _⟩ => ?_⟩
    rcases h with h | h
    · exact absurd hf.positive (by rw [List.isEmpty_iff.mp h]; decide)
    · exact absurd (Nat.mod_eq_zero_of_dvd hf.whole) h
  · rename_i h
    rw [not_or, List.isEmpty_iff, not_not] at h
    rw [bind_eq_ok_iff]
    constructor
    · rintro ⟨bs, hm, hs⟩
      have hf : Holds file bs := ⟨List.length_pos_iff.mpr h.1, Nat.dvd_of_mod_eq_zero h.2,
        mapM_eq_ok_iff.mp hm⟩
      cases bs with
      | nil => exact absurd rfl hf.ne_nil
      | cons first rest =>
          obtain ⟨_, hc, hs⟩ := bind_eq_ok_iff.mp hs
          cases hs
          exact ⟨_, hf, checkFrom_eq_ok_iff_consistent.mp hc, describes_ofBlocks _ hf.ne_nil⟩
    · rintro ⟨bs, hf, hc, hd⟩
      refine ⟨bs, mapM_eq_ok_iff.mpr hf.frames, ?_⟩
      cases bs with
      | nil => exact absurd rfl hf.ne_nil
      | cons first rest =>
          have hfirst : first.family = s.family := hc.family first List.mem_cons_self
          refine bind_eq_ok_iff.mpr ⟨(), ?_, ?_⟩
          · exact checkFrom_eq_ok_iff_consistent.mpr (hfirst.symm ▸ hc)
          · rw [hfirst]
            exact congrArg Except.ok (hd.eq_ofBlocks hf.ne_nil)

/-! ## Other files made of the same frames

In an accepted file each frame carries its own place.  So in another accepted file
the same frames are at the same places, and none is missing. -/

/-- The frames of an accepted file are of full length, so that whatever is
joined from them is cut into them again. -/
theorem Holds.frames_flatten {file : Bytes} {bs : List Block} (h : Holds file bs)
    {taken : List Bytes} (ht : ∀ frame ∈ taken, frame ∈ Summary.frames file) :
    Summary.frames taken.flatten = taken := by
  have hlen : ∀ frame ∈ taken, frame.length = frameSize := by
    intro frame hframe
    obtain ⟨i, hi⟩ := List.mem_iff_getElem?.mp (ht frame hframe)
    obtain ⟨b, -, hb⟩ := h.getElem? hi
    by_contra hne
    rw [Block.ofFrame, dif_neg hne] at hb
    cases hb
  rw [← List.flatMap_id, Summary.frames, chunks_flatMap _ id taken hlen, List.map_id]

/-- Frames of an accepted file make up no other accepted file: the index of
each block says where it stood, and the count says how many there were. -/
theorem eq_frames_of_ofFile_flatten {file : Bytes} {s s' : Summary} {taken : List Bytes}
    (h : ofFile file = .ok s) (ht : ∀ frame ∈ taken, frame ∈ frames file)
    (h' : ofFile taken.flatten = .ok s') : taken = frames file := by
  obtain ⟨bs, hf, hc, -⟩ := ofFile_eq_ok_iff_holds.mp h
  obtain ⟨bs', hf', hc', -⟩ := ofFile_eq_ok_iff_holds.mp h'
  have hframes := hf.frames_flatten ht
  -- A frame stands where its index says, in the one file and in the other.
  have hplace : ∀ (i : Nat) (frame : Bytes), taken[i]? = some frame →
      (frames file)[i]? = some frame ∧ taken.length = (frames file).length := by
    intro i frame hi
    obtain ⟨j, hj⟩ := List.mem_iff_getElem?.mp (ht frame (List.mem_of_getElem? hi))
    obtain ⟨b, hb, hof⟩ := hf.getElem? hj
    obtain ⟨b', hb', hof'⟩ := hf'.getElem? (hframes.symm ▸ hi)
    obtain rfl : b = b' := Except.ok.inj (hof.symm.trans hof')
    obtain rfl : j = i := (hc.index j b hb).symm.trans (hc'.index i b hb')
    refine ⟨hj, ?_⟩
    rw [hf.length_eq, ← hc.count b (List.mem_of_getElem? hb),
      hc'.count b (List.mem_of_getElem? hb'), ← hf'.length_eq, hframes]
  obtain ⟨first, hfirst⟩ := List.exists_mem_of_ne_nil bs' hf'.ne_nil
  have hpos : 0 < taken.length := by
    rw [← hframes, hf'.length_eq]
    exact List.length_pos_of_mem hfirst
  have hlen := (hplace 0 taken[0] (List.getElem?_eq_getElem hpos)).2
  refine List.ext_getElem hlen fun i hi hi' => ?_
  have := (hplace i taken[i] (List.getElem?_eq_getElem hi)).1
  rw [List.getElem?_eq_getElem hi'] at this
  exact (Option.some.inj this).symm

theorem checked_eq_ok_iff {α : Type} {x : Except Fault α} {a : α} :
    checked x = .ok a ↔ x = .ok a := by
  cases x with
  | error e => exact ⟨fun h => (nomatch h), fun h => (nomatch h)⟩
  | ok b => exact ⟨fun h => by cases h; rfl, fun h => by cases h; rfl⟩

/-- Exactly the files whose frames hold consistent blocks are accepted, each
with the summary that describes its blocks, and every other list of frames of
an accepted file makes up a file that is refused. -/
theorem ofFile_accepts_exactly_consistent (file : Bytes) :
    ((∃ s, checked (ofFile file) = .ok s) ↔
      ∃ family bs, Holds file bs ∧ Consistent family bs) ∧
    (∀ s bs, checked (ofFile file) = .ok s → Holds file bs →
      Consistent s.family bs ∧ Describes s bs) ∧
    ∀ s, checked (ofFile file) = .ok s →
      ∀ taken : List Bytes, (∀ frame ∈ taken, frame ∈ frames file) → taken ≠ frames file →
        ∃ text, checked (ofFile taken.flatten) = .error (.invalidImage text) := by
  simp only [checked_eq_ok_iff]
  refine ⟨⟨?_, ?_⟩, ?_, ?_⟩
  · rintro ⟨s, hs⟩
    obtain ⟨bs, hf, hc, -⟩ := ofFile_eq_ok_iff_holds.mp hs
    exact ⟨s.family, bs, hf, hc⟩
  · rintro ⟨family, bs, hf, hc⟩
    exact ⟨_, ofFile_eq_ok_iff_holds.mpr ⟨bs, hf, hc, describes_ofBlocks family hf.ne_nil⟩⟩
  · intro s bs hs hf
    obtain ⟨bs', hf', hc, hd⟩ := ofFile_eq_ok_iff_holds.mp hs
    obtain rfl := hf.unique hf'
    exact ⟨hc, hd⟩
  · intro s hs taken ht hne
    cases h : ofFile taken.flatten with
    | error fault => exact ⟨fault.message, rfl⟩
    | ok s' => exact absurd (eq_frames_of_ofFile_flatten hs ht h) hne

/-- Two blocks make up a file, and it is refused with its frames swapped. -/
theorem ofFile_refuses_swapped_frames :
    let block (i : UInt32) : Block :=
      ⟨familyFlag, 256 * i, 256, i, 2, rp2040Family, List.replicate 476 7, List.length_replicate⟩
    let file := [block 0, block 1].flatMap Block.toFrame
    ∃ s, checked (ofFile file) = .ok s ∧ Holds file [block 0, block 1] ∧
      (∀ frame ∈ (frames file).reverse, frame ∈ frames file) ∧
      (frames file).reverse ≠ frames file ∧
      ∃ text, checked (ofFile (frames file).reverse.flatten) = .error (.invalidImage text) := by
  intro block file
  have hf : Holds file [block 0, block 1] := holds_flatMap_toFrame (by simp) (by decide)
  have hc : Consistent rp2040Family [block 0, block 1] :=
    checkFrom_eq_ok_iff_consistent.mp rfl
  obtain ⟨s, hs⟩ := (ofFile_accepts_exactly_consistent file).1.mpr ⟨_, _, hf, hc⟩
  have hne : (frames file).reverse ≠ frames file := by
    rw [Block.frames_flatMap_toFrame]
    intro h
    have hframe : (block 1).toFrame = (block 0).toFrame := (List.cons.inj h).1
    have hblock := congrArg Block.ofFrame hframe
    rw [Block.ofFrame_toFrame (block 1) (by decide), Block.ofFrame_toFrame (block 0) (by decide)]
      at hblock
    exact absurd (congrArg Block.index (Except.ok.inj hblock)) (by decide)
  exact ⟨s, hs, hf, fun frame h => List.mem_reverse.mp h, hne,
    (ofFile_accepts_exactly_consistent file).2.2 s hs _ (fun frame h => List.mem_reverse.mp h)
      hne⟩

end Summary

end BoardRig.Uf2
