/-
# `BoardRig.Proofs.Uf2.Inspection` — what was encoded is summed up truly

The blocks of an image stand in the order of their indices and agree about
their number and their family (`consistent_encode`).  Where the addresses end
before `2 ^ 32` none of them wraps around, so that the blocks lie one behind
the other and the summary tells their true range (`describes_encode`).
`inspection_agrees` says it of the bytes that are written, and of the commands
that write a file and sum it up.
-/
import BoardRig.Answer.Images
import BoardRig.Proofs.Answer
import BoardRig.Proofs.Uf2.Consistency
import BoardRig.Proofs.Uf2.Conversion
import BoardRig.Proofs.Uf2.Lossless
import Mathlib.GroupTheory.GroupAction.Ring

namespace BoardRig.Uf2

/-- The summary of `n` payloads of `size` bytes, one behind the other. -/
def Summary.contiguous (family base : UInt32) (n size : Nat) : Summary where
  blocks := n
  family
  startAddress := base.toNat
  endAddress := base.toNat + n * size
  payloadBytes := n * size

namespace Encoder

/-! ## The blocks of an image

The address of a block is the base and the pieces before it; without wrapping the
least is the first one and the greatest end is the last one's. -/

variable (e : Encoder) (image : Image) {n : Nat}

theorem consistent_encode (few : image.data.length ⌈/⌉ e.payloadSize < 2 ^ 32) :
    Summary.Consistent e.family (e.encode image) := by
  have hlossless := e.lossless image few
  refine ⟨fun i b hb => ?_, fun b hb => ?_, fun b hb => ?_⟩
  · exact (hlossless.header i b hb).2.2.2.1
  · obtain ⟨i, hi⟩ := List.mem_iff_getElem?.mp hb
    rw [hlossless.blocks]
    exact (hlossless.header i b hi).2.2.2.2.1
  · obtain ⟨i, hi⟩ := List.mem_iff_getElem?.mp hb
    exact (hlossless.header i b hi).2.2.2.2.2

section Room

variable (pieces : image.data.length ⌈/⌉ e.payloadSize = n)
  (room : image.base.toNat + n * e.payloadSize < 2 ^ 32)

include pieces room

theorem few_of_room : image.data.length ⌈/⌉ e.payloadSize < 2 ^ 32 := by
  have hle : n ≤ n * e.payloadSize := Nat.le_mul_of_pos_right n e.payloadSize_pos
  omega

/-- Where there is room, a block goes as far behind the base as there are
payloads in front of it, and its payload ends within the room. -/
theorem address_of_getElem?_encode {i : Nat} {b : Block} (h : (e.encode image)[i]? = some b) :
    b.address.toNat = image.base.toNat + i * e.payloadSize ∧
      i * e.payloadSize + e.payloadSize ≤ n * e.payloadSize := by
  have hi : i < n := by
    rw [← pieces, ← e.length_encode image]
    exact (List.getElem?_eq_some_iff.mp h).1
  have hend : i * e.payloadSize + e.payloadSize ≤ n * e.payloadSize := by
    rw [← Nat.succ_mul]
    exact Nat.mul_le_mul_right _ hi
  have haddress := ((e.lossless image (e.few_of_room image pieces room)).header i b h).2.1
  refine ⟨haddress.trans (Nat.mod_eq_of_lt ?_), hend⟩
  omega

/-- Where there is room, the summary of the blocks is that of their range. -/
theorem describes_encode (positive : 0 < n) :
    (Summary.contiguous e.family image.base n e.payloadSize).Describes (e.encode image) := by
  have hlength : (e.encode image).length = n := (e.length_encode image).trans pieces
  have hplace : ∀ b ∈ e.encode image, ∃ i,
      b.address.toNat = image.base.toNat + i * e.payloadSize ∧
        i * e.payloadSize + e.payloadSize ≤ n * e.payloadSize := by
    intro b hb
    obtain ⟨i, hi⟩ := List.mem_iff_getElem?.mp hb
    exact ⟨i, e.address_of_getElem?_encode image pieces room hi⟩
  refine ⟨hlength.symm, ⟨?_, ?_⟩, ⟨?_, ?_⟩, ?_⟩
  · -- The first block is at the base.
    have hfirst := List.getElem?_eq_getElem (hlength.symm ▸ positive)
    have haddress := (e.address_of_getElem?_encode image pieces room hfirst).1
    rw [Nat.zero_mul, Nat.add_zero] at haddress
    exact ⟨_, List.mem_of_getElem? hfirst, haddress⟩
  · rintro _ ⟨b, hb, rfl⟩
    obtain ⟨i, haddress, -⟩ := hplace b hb
    rw [haddress]
    exact Nat.le_add_right _ _
  · -- The last block ends where the room does.
    obtain ⟨m, rfl⟩ := Nat.exists_eq_succ_of_ne_zero positive.ne'
    have hlast := List.getElem?_eq_getElem (hlength.symm ▸ Nat.lt_succ_self m)
    have haddress := (e.address_of_getElem?_encode image pieces room hlast).1
    refine ⟨_, List.mem_of_getElem? hlast, ?_⟩
    rw [haddress, e.payloadSize_of_mem_encode image (List.mem_of_getElem? hlast), Nat.add_assoc,
      ← Nat.succ_mul]
    exact min_eq_left (Nat.le_sub_one_of_lt room)
  · rintro _ ⟨b, hb, rfl⟩
    obtain ⟨i, haddress, hend⟩ := hplace b hb
    rw [haddress, e.payloadSize_of_mem_encode image hb, Nat.add_assoc]
    exact (min_le_left _ _).trans (Nat.add_le_add_left hend _)
  · rw [List.map_congr_left fun b hb => e.payloadSize_of_mem_encode image hb, List.map_const',
      hlength, List.sum_replicate_nat]
    rfl

theorem ofFile_fileOf (positive : 0 < n) :
    checked (Summary.ofFile (e.fileOf image))
      = .ok (Summary.contiguous e.family image.base n e.payloadSize) := by
  have hne : e.encode image ≠ [] := by
    rw [← List.length_pos_iff, e.length_encode image, pieces]
    exact positive
  have hbound : ∀ b ∈ e.encode image, b.payloadSize.toNat ≤ dataSize := fun b hb =>
    (e.payloadSize_of_mem_encode image hb).symm ▸ e.payloadSize_le
  rw [Summary.checked_eq_ok_iff, Summary.ofFile_eq_ok_iff_holds, fileOf_eq]
  exact ⟨e.encode image, Summary.holds_flatMap_toFrame hne hbound,
    e.consistent_encode image (e.few_of_room image pieces room),
    e.describes_encode image pieces room positive⟩

end Room

theorem ceilDiv_pos {data : Bytes} {size : Nat} (h : data ≠ []) (positive : 0 < size) :
    0 < data.length ⌈/⌉ size := by
  rw [ceilDiv_eq_sub_add_one positive (List.length_pos_iff.mpr h)]
  exact Nat.succ_pos _

/-! ## Written and summed up -/

/-- What is written for an image that the addresses have room for is accepted,
with its true range; and so is every file that was written by a conversion,
whenever the file system is still the one that the conversion left. -/
theorem inspection_agrees :
    (∀ (family : UInt32) (size n : Nat) (image : Image),
      1 ≤ size → size ≤ 476 → image.data ≠ [] → image.data.length ⌈/⌉ size = n →
      image.base.toNat + n * size < 2 ^ 32 →
      ∃ e, (ofFamily family).withPayloadSize size = .ok e ∧
        checked (Summary.ofFile (e.writeTo image []).2)
          = .ok (Summary.contiguous family image.base n size)) ∧
    ∀ {σ : Type} (get : σ → FileSystem) (set : FileSystem → σ → σ) (directory : String)
      (rig : Rig σ) (s t : Settings) (input output : String) (base family : Option UInt32)
      (json : Bool) (w w' w'' : σ) (report : Report) (data : Bytes) (n : Nat),
      (∀ fs w, get (set fs w) = fs) → rig.files = Files.ofFileSystem get set directory →
      Answer.convert rig s input output base family w = (.ok report, w') →
      (get w').isFile (Files.within directory output) = true →
      (get w).read (Files.within directory input) = .ok data → data.length ⌈/⌉ 256 = n →
      (base.getD s.profile.flashBase).toNat + n * 256 < 2 ^ 32 → get w'' = get w' →
      let summary := Summary.contiguous (family.getD s.profile.family)
        (base.getD s.profile.flashBase) n 256
      Summary.ofPath rig.files output w'' = (.ok summary, w'') ∧
        Answer.inspect rig t output json w'' =
          (.ok (if json then Report.ofJson (Answer.summaryJson output t.profile summary)
            else Answer.summarySheet output t.profile summary), w'') := by
  constructor
  · intro family size n image positive fits nonempty pieces room
    refine ⟨_, (ofFamily family).withPayloadSize_eq_ok positive fits, ?_⟩
    exact ofFile_fileOf _ image pieces room (pieces ▸ ceilDiv_pos nonempty positive)
  · intro σ get set directory rig s t input output base family json w w' w'' report data n lens
      hfiles converted isFile hread pieces room same summary
    obtain ⟨blocks, converted, -⟩ := Answer.ofAction_eq_ok_iff.mp converted
    rw [hfiles] at converted
    obtain ⟨data', hread', nonempty, -, stores⟩ := stores_of_convert lens converted isFile
    obtain rfl : data' = data := Except.ok.inj (hread'.symm.trans hread)
    have haccepted := ofFile_fileOf (ofFamily (family.getD s.profile.family))
      ⟨data', base.getD s.profile.flashBase⟩ pieces room
      (pieces ▸ ceilDiv_pos nonempty (by decide))
    have hsummary : Summary.ofPath rig.files output w'' = (.ok summary, w'') := by
      rw [hfiles, Summary.ofPath_of_stores (same ▸ stores), haccepted]
      rfl
    exact ⟨hsummary, Answer.ofAction_eq_ok_iff.mpr ⟨summary, hsummary, rfl⟩⟩

/-- Two blocks that end at the end of the address space, and a file that was converted
over an older one. -/
theorem inspection_agrees_up_to_the_edge :
    let image : Image := ⟨List.replicate 477 7, 0xFFFFFC47⟩
    let table (out : Bytes) : FileSystem :=
      ⟨[(0, ⟨.directory [("raw", 1), ("out", 2)], 0, 0⟩), (1, .ofBytes [7, 8] false),
        (2, .ofBytes out false)], 0⟩
    let rig : Rig FileSystem :=
      { runner := ⟨fun _ fs => (.error (.io .noSuchProgram), fs)⟩
        files := .ofFileSystem id (fun fs _ => fs) "/"
        exists? := fun path fs => fs.exists? path
        isFile := fun path fs => fs.isFile path
        usb := ⟨fun fs => ([], fs), fun _ fs => (.error .noSuchFile, fs)⟩
        storage := ⟨fun fs => (.error (.io .noSuchFile), fs), fun fs => (.ok [], fs),
          fun _ fs => (.ok (), fs)⟩
        opener := ⟨fun _ fs => (.error (.io .noSuchFile), fs)⟩
        clock := ⟨fun _ => 0, fun _ fs => fs⟩
        ports := fun _ => [] }
    let s := Settings.resolve {} {}
    (∃ e, (ofFamily 5).withPayloadSize 476 = .ok e ∧
      checked (Summary.ofFile (e.writeTo image []).2) = .ok ⟨2, 5, 0xFFFFFC47, 0xFFFFFFFF, 952⟩) ∧
    ∃ report w', Answer.convert rig s "raw" "/out" none none (table [1, 2, 3]) = (.ok report, w') ∧
      Summary.ofPath rig.files "/out" w'
        = (.ok ⟨1, rp2040Family, 0x10000000, 0x10000100, 256⟩, w') := by
  intro image table rig s
  obtain ⟨encoded, converted⟩ := inspection_agrees
  have pieces : image.data.length ⌈/⌉ 476 = 2 := by
    dsimp only [image]
    rw [List.length_replicate]
    rfl
  refine ⟨encoded 5 476 2 image (by decide) (by decide) (List.cons_ne_nil _ _) pieces (by decide),
    ?_⟩
  let file := (ofFamily rp2040Family).fileOf ⟨[7, 8], 0x10000000⟩
  have raw : FileSystem.BelowRoot (Files.within "/" "raw") "raw" :=
    ⟨by decide, by decide, by decide, by decide, by decide, by decide⟩
  have out : FileSystem.BelowRoot (Files.within "/" "/out") "out" :=
    ⟨by decide, by decide, by decide, by decide, by decide, by decide⟩
  have hread : rig.files.read "raw" (table [1, 2, 3]) = (.ok [7, 8], table [1, 2, 3]) :=
    Files.read_of_belowRoot raw rfl rfl
  have hcreate : rig.files.create "/out" (table [1, 2, 3]) = (.ok 2, table []) :=
    Files.create_of_belowRoot out rfl rfl
  have happend : ∀ bytes, rig.files.append 2 bytes (table []) = (.ok (), table bytes) :=
    fun _ => rfl
  have isFile : ∀ bytes, (id (table bytes)).isFile (Files.within "/" "/out") = true := by
    intro bytes
    have stored : (id (table bytes)).content? 2 = some (.file bytes) := rfl
    exact Files.isFile_of_belowRoot out rfl stored
  have hconvert : ∃ report,
      Answer.convert rig s "raw" "/out" none none (table [1, 2, 3]) = (.ok report, table file) := by
    refine ⟨_, Answer.ofAction_eq_ok_iff.mpr ⟨1, convert_eq_ok_iff.mpr ?_, rfl⟩⟩
    refine ⟨[7, 8], table [1, 2, 3], 2, table [], hread, List.cons_ne_nil _ _, hcreate,
      happend file, ?_⟩
    rw [length_encode]
    decide
  obtain ⟨report, hconvert⟩ := hconvert
  refine ⟨report, table file, hconvert, ?_⟩
  exact (converted id (fun fs _ => fs) "/" rig s s "raw" "/out" none none false _ _ _ report
    [7, 8] 1 (fun _ _ => rfl) rfl hconvert (isFile file) (congrArg Prod.fst hread) rfl
    (by decide) rfl).1

end Encoder

end BoardRig.Uf2
