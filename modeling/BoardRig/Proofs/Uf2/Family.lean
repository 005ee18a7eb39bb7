/-
# `BoardRig.Proofs.Uf2.Family` — what the family of a summary stands for

The family word of a block names a family only under a flag (`Block.family?`); without
the flag it is the size of the file.  Neither the reader of frames nor the checks of a
file look at the flags, so that files which differ in nothing else have the same
summary (`ofFile_of_sameButFlags`), and the same is reported of them.  The family of a
summary is then the word that all blocks have, and a family only if all of them have
the flag (`summary_unmoved_by_flags`).
-/
import BoardRig.Answer.Images
import BoardRig.Proofs.FileSystem.Creation
import BoardRig.Proofs.Uf2.Bijection
import BoardRig.Proofs.Uf2.Consistency

namespace BoardRig.Uf2

variable {bs bs' : List Block} {b : Block} {file : Bytes} {s : Summary}

namespace Block

def family? (b : Block) : Option UInt32 :=
  if b.hasFamily then some b.family else none

theorem family?_eq_some_iff {family : UInt32} :
    b.family? = some family ↔ b.hasFamily = true ∧ b.family = family := by
  rw [family?]
  cases b.hasFamily <;> simp

def withFlags (flags : UInt32) (b : Block) : Block := { b with flags }

/-- Blocks that differ in their flags, if in anything. -/
def SameButFlags (bs bs' : List Block) : Prop :=
  bs.map (withFlags 0) = bs'.map (withFlags 0)

theorem SameButFlags.of_mem (h : SameButFlags bs bs') (hb : b ∈ bs') :
    ∃ c ∈ bs, c.withFlags 0 = b.withFlags 0 :=
  List.mem_map.mp (h ▸ List.mem_map_of_mem hb)

end Block

namespace Summary

open Block (withFlags SameButFlags)

theorem ofBlocks_map_withFlags (family flags : UInt32) (bs : List Block) :
    ofBlocks family (bs.map (withFlags flags)) = ofBlocks family bs := by
  simp only [ofBlocks, List.length_map, List.foldl_map]
  rfl

theorem checkFrom_map_withFlags (count : Nat) (family flags : UInt32) (i : Nat) (bs : List Block) :
    checkFrom count family i (bs.map (withFlags flags)) = checkFrom count family i bs := by
  induction bs generalizing i with
  | nil => rfl
  | cons b bs ih => rw [List.map_cons, checkFrom, checkFrom, ih]; rfl

theorem consistent_of_sameButFlags {family : UInt32} (same : SameButFlags bs bs')
    (h : Consistent family bs) : Consistent family bs' := by
  have number : bs.length = bs'.length := by
    rw [← List.length_map (withFlags 0), same, List.length_map]
  rw [← checkFrom_eq_ok_iff_consistent, ← checkFrom_map_withFlags _ _ 0] at h ⊢
  rwa [← same, ← number]

/-- The file of blocks that differ from those of an accepted file in their flags only is
accepted with the same summary. -/
theorem ofFile_of_sameButFlags (accepted : ofFile file = .ok s) (holds : Holds file bs)
    (same : SameButFlags bs bs') :
    Holds (bs'.flatMap Block.toFrame) bs' ∧ ofFile (bs'.flatMap Block.toFrame) = .ok s := by
  obtain ⟨bs₀, holds₀, consistent, describes⟩ := ofFile_eq_ok_iff_holds.mp accepted
  obtain rfl := holds.unique holds₀
  have nonempty : bs' ≠ [] := by
    rintro rfl
    exact holds.ne_nil (List.map_eq_nil_iff.mp same)
  have fits : ∀ b ∈ bs', b.payloadSize.toNat ≤ dataSize := by
    intro b hb
    obtain ⟨c, hc, equal⟩ := same.of_mem hb
    obtain ⟨i, hi, rfl⟩ := List.getElem_of_mem hc
    have read := (List.forall₂_iff_get.mp holds.frames).2 i (holds.length_eq.symm ▸ hi) hi
    have size : (bs[i].withFlags 0).payloadSize = (b.withFlags 0).payloadSize := by rw [equal]
    exact (congrArg UInt32.toNat size).ge.trans (Block.read_of_ofFrame read).fits
  have holds' := holds_flatMap_toFrame nonempty fits
  refine ⟨holds', ofFile_eq_ok_iff_holds.mpr
    ⟨bs', holds', consistent_of_sameButFlags same consistent, ?_⟩⟩
  have summed : ofBlocks s.family bs' = s := by
    rw [← ofBlocks_map_withFlags s.family 0, ← same, ofBlocks_map_withFlags,
      describes.eq_ofBlocks holds.ne_nil]
  exact summed ▸ describes_ofBlocks s.family nonempty

theorem inspect_of_read {σ : Type} {rig : Rig σ} {path : String} {w w₁ : σ} (settings : Settings)
    (json : Bool) (accepted : checked (ofFile file) = .ok s)
    (read : rig.files.read path w = (.ok file, w₁)) :
    Answer.inspect rig settings path json w =
      (.ok (if json then Report.ofJson (Answer.summaryJson path settings.profile s)
        else Answer.summarySheet path settings.profile s), w₁) := by
  have summed : ofPath rig.files path w = (.ok s, w₁) := by
    rw [ofPath, Action.bind_apply, Action.ofIo_eq_ok_iff.mpr read]
    simp only [accepted]
    rfl
  rw [Answer.inspect, Answer.ofAction, summed]

/-- The flags of the blocks have no part in what is said of a file. Its family is the word
that all blocks have, and a family that they name only if each one has the flag for it;
the same blocks with any other flags are summed up as the same, and the same is reported
of them, the match with the target included. -/
theorem summary_unmoved_by_flags (file : Bytes) (s : Summary) (bs : List Block)
    (accepted : checked (ofFile file) = .ok s) (holds : Holds file bs) :
    (∀ b ∈ bs, b.family = s.family) ∧
      ((∀ b ∈ bs, b.family? = some s.family) ↔ ∀ b ∈ bs, b.hasFamily = true) ∧
      ∀ bs', SameButFlags bs bs' →
        Holds (bs'.flatMap Block.toFrame) bs' ∧
          checked (ofFile (bs'.flatMap Block.toFrame)) = .ok s ∧
          ∀ {σ : Type} (rig : Rig σ) (settings : Settings) path json w w₁ w' w₁',
            rig.files.read path w = (.ok file, w₁) →
            rig.files.read path w' = (.ok (bs'.flatMap Block.toFrame), w₁') →
            ∃ report, Answer.inspect rig settings path json w = (.ok report, w₁) ∧
              Answer.inspect rig settings path json w' = (.ok report, w₁') := by
  obtain ⟨bs₀, holds₀, consistent, -⟩ :=
    ofFile_eq_ok_iff_holds.mp (checked_eq_ok_iff.mp accepted)
  obtain rfl := holds.unique holds₀
  have word : ∀ b ∈ bs, b.family = s.family := consistent.family
  refine ⟨word, ⟨fun named b hb => ?_, fun flagged b hb => ?_⟩, fun bs' same => ?_⟩
  · exact (Block.family?_eq_some_iff.mp (named b hb)).1
  · exact Block.family?_eq_some_iff.mpr ⟨flagged b hb, word b hb⟩
  · obtain ⟨holds', accepted'⟩ := ofFile_of_sameButFlags (checked_eq_ok_iff.mp accepted) holds same
    have accepted' := checked_eq_ok_iff.mpr accepted'
    refine ⟨holds', accepted', fun rig settings path json w w₁ w' w₁' read read' => ?_⟩
    exact ⟨_, inspect_of_read settings json accepted read,
      inspect_of_read settings json accepted' read'⟩

/-- Two blocks of which one names a family and the other one does not: the word that they
share is the size of the file, and it stays the family of the summary when no block names
any. -/
theorem summary_unmoved_by_flags_of_one_flagged :
    let block (flags i : UInt32) : Block :=
      ⟨flags, 256 * i, 256, i, 2, 1024, List.replicate 476 7, List.length_replicate⟩
    let bs := [block familyFlag 0, block 0 1]
    let unflagged := [block 0 0, block 0 1]
    let file := bs.flatMap Block.toFrame
    ∃ s, checked (ofFile file) = .ok s ∧ Holds file bs ∧ s.family.toNat = file.length ∧
      (block familyFlag 0).family? = some s.family ∧ (block 0 1).family? = none ∧
      SameButFlags bs unflagged ∧ (∀ b ∈ unflagged, b.family? = none) ∧
      checked (ofFile (unflagged.flatMap Block.toFrame)) = .ok s := by
  intro block bs unflagged file
  have holds : Holds file bs := holds_flatMap_toFrame (by simp [bs]) (by decide)
  have consistent : Consistent 1024 bs := checkFrom_eq_ok_iff_consistent.mp rfl
  have accepted : checked (ofFile file) = .ok (ofBlocks 1024 bs) :=
    checked_eq_ok_iff.mpr (ofFile_eq_ok_iff_holds.mpr
      ⟨bs, holds, consistent, describes_ofBlocks 1024 holds.ne_nil⟩)
  obtain ⟨word, -, others⟩ := summary_unmoved_by_flags file _ bs accepted holds
  have same : SameButFlags bs unflagged := rfl
  have size : file.length = 1024 := (Block.length_flatMap_toFrame bs).trans (by decide)
  refine ⟨_, accepted, holds, size.symm, ?_, by decide, same, by decide,
    (others unflagged same).2.1⟩
  exact Block.family?_eq_some_iff.mpr ⟨by decide, word _ List.mem_cons_self⟩

/-- A file is accepted although its block names no family, and the family of its summary is
the size of the file. -/
theorem size_summed_up_as_family :
    let b : Block := ⟨0, 0x10000000, 256, 0, 1, 512, List.replicate 476 7, List.length_replicate⟩
    b.hasFamily = false ∧ b.family? = none ∧
      ∃ s, checked (ofFile b.toFrame) = .ok s ∧ s.family.toNat = b.toFrame.length := by
  intro b
  have holds : Holds ([b].flatMap Block.toFrame) [b] :=
    holds_flatMap_toFrame (List.cons_ne_nil _ _) (by decide)
  rw [List.flatMap_singleton] at holds
  have consistent : Consistent 512 [b] := checkFrom_eq_ok_iff_consistent.mp rfl
  refine ⟨by decide, by decide, ofBlocks 512 [b], checked_eq_ok_iff.mpr (ofFile_eq_ok_iff_holds.mpr
    ⟨[b], holds, consistent, describes_ofBlocks 512 holds.ne_nil⟩), ?_⟩
  rw [Block.toFrame_length]
  rfl

end Summary

end BoardRig.Uf2
