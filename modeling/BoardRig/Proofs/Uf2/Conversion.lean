/-
# `BoardRig.Proofs.Uf2.Conversion` — what a conversion leaves

A conversion reads its input once and goes by what it read.  No bytes are
refused at once (`convert_empty`); otherwise the output is made and the file of
the image is written into it.  So a file that is at the output after a
conversion that succeeded is the file of that image (`stores_of_convert`),
whatever was there before.

Input and output may be one file, or two paths of one file: the input was read
to its end before the output is made.  `convert_safe` says for every state of
the files what a conversion changes, and that it changes nothing where it fails.
-/
import BoardRig.Proofs.FileSystem.Frame
import BoardRig.Proofs.Uf2.Lossless
import BoardRig.Uf2.Conversion

namespace BoardRig.Uf2

variable {σ : Type} {e : Encoder} {input output : String} {base : UInt32} {n : Nat} {w w₁ w' : σ}
  {data : Bytes}

theorem Encoder.convert_of_read {files : Files σ} (h : files.read input w = (.ok data, w₁)) :
    e.convert files input output base w =
      if data.isEmpty then (.error (Fault.emptyInput input).error, w₁)
      else (do
        let file ← Action.ofIo (files.create output)
        Action.ofIo (files.append file (e.fileOf ⟨data, base⟩))
        pure (e.encode ⟨data, base⟩).length : Action σ Nat) w₁ := by
  rw [Encoder.convert, Action.bind_apply, Action.ofIo_eq_ok_iff.mpr h]
  dsimp only
  cases data.isEmpty with
  | true => rfl
  | false => rfl

theorem Encoder.convert_empty {files : Files σ} (h : files.read input w = (.ok [], w₁)) :
    e.convert files input output base w = (.error (Fault.emptyInput input).error, w₁) :=
  Encoder.convert_of_read h

theorem Encoder.convert_unread {files : Files σ} {cause : IoError}
    (h : files.read input w = (.error cause, w₁)) :
    e.convert files input output base w = (.error (.io cause), w₁) := by
  rw [Encoder.convert, Action.bind_apply, Action.ofIo, h]

section Made

variable {files : Files σ} {file : Nat} {w₂ : σ} (read : files.read input w = (.ok data, w₁))
  (nonempty : data ≠ [])

include read nonempty

theorem Encoder.convert_unmade {cause : IoError} (h : files.create output w₁ = (.error cause, w₂)) :
    e.convert files input output base w = (.error (.io cause), w₂) := by
  rw [Encoder.convert_of_read read, if_neg fun h => nonempty (List.isEmpty_iff.mp h),
    Action.bind_apply, Action.ofIo, h]

theorem Encoder.convert_of_made (h : files.create output w₁ = (.ok file, w₂)) :
    e.convert files input output base w
      = match files.append file (e.fileOf ⟨data, base⟩) w₂ with
        | (.ok (), w') => (.ok (e.encode ⟨data, base⟩).length, w')
        | (.error cause, w') => (.error (.io cause), w') := by
  rw [Encoder.convert_of_read read, if_neg fun h => nonempty (List.isEmpty_iff.mp h),
    Action.bind_apply, Action.ofIo_eq_ok_iff.mpr h]
  dsimp only
  rw [Action.bind_apply, Action.ofIo]
  rcases files.append file (e.fileOf ⟨data, base⟩) w₂ with ⟨_ | _, w'⟩ <;> rfl

end Made

theorem Encoder.convert_eq_ok_iff {files : Files σ} :
    e.convert files input output base w = (.ok n, w') ↔
      ∃ data w₁ file w₂, files.read input w = (.ok data, w₁) ∧ data ≠ [] ∧
        files.create output w₁ = (.ok file, w₂) ∧
        files.append file (e.fileOf ⟨data, base⟩) w₂ = (.ok (), w') ∧
        (e.encode ⟨data, base⟩).length = n := by
  constructor
  · intro h
    obtain ⟨data, w₁, hread, -⟩ := Action.bind_eq_ok_iff.mp h
    rw [Action.ofIo_eq_ok_iff] at hread
    rw [Encoder.convert_of_read hread] at h
    split at h
    · cases h
    · next nonempty =>
      obtain ⟨file, w₂, hcreate, h⟩ := Action.bind_eq_ok_iff.mp h
      obtain ⟨⟨⟩, w₃, happend, h⟩ := Action.bind_eq_ok_iff.mp h
      cases h
      exact ⟨data, w₁, file, w₂, hread, fun hnil => nonempty (List.isEmpty_iff.mpr hnil),
        Action.ofIo_eq_ok_iff.mp hcreate, Action.ofIo_eq_ok_iff.mp happend, rfl⟩
  · rintro ⟨data, w₁, file, w₂, hread, nonempty, hcreate, happend, rfl⟩
    rw [Encoder.convert_of_read hread, if_neg (fun h => nonempty (List.isEmpty_iff.mp h))]
    refine Action.bind_eq_ok_iff.mpr ⟨file, w₂, Action.ofIo_eq_ok_iff.mpr hcreate, ?_⟩
    exact Action.bind_eq_ok_iff.mpr ⟨(), w', Action.ofIo_eq_ok_iff.mpr happend, rfl⟩

theorem Encoder.exists_frames (e : Encoder) (image : Image) :
    ∃ frames : List Bytes, e.writeTo image [] = (frames.length, frames.flatten) ∧
      ∀ frame ∈ frames, frame.length = frameSize := by
  refine ⟨(e.encode image).map Block.toFrame, Prod.ext (List.length_map _).symm ?_, ?_⟩
  · rw [← List.flatMap_def]
    exact e.fileOf_eq image
  · intro frame hframe
    obtain ⟨block, -, rfl⟩ := List.mem_map.mp hframe
    exact block.toFrame_length

section FileSystem

variable {get : σ → FileSystem} {set : FileSystem → σ → σ} {directory : String}

/-- What a conversion leaves at its output is the file of the image that it read,
unless it wrote to a device. -/
theorem Encoder.stores_of_convert (lens : ∀ fs w, get (set fs w) = fs)
    (converted : e.convert (Files.ofFileSystem get set directory) input output base w = (.ok n, w'))
    (isFile : (get w').isFile (Files.within directory output) = true) :
    ∃ data, (get w).read (Files.within directory input) = .ok data ∧ data ≠ [] ∧
      (e.encode ⟨data, base⟩).length = n ∧
      (get w').Stores (Files.within directory output) (e.fileOf ⟨data, base⟩) := by
  obtain ⟨data, w₁, file, w₂, hread, nonempty, hcreate, happend, hn⟩ :=
    Encoder.convert_eq_ok_iff.mp converted
  have hread : (get w).read (Files.within directory input) = .ok data :=
    (Prod.mk.inj hread).1
  obtain stores | ⟨device, hfind, hdevice⟩ := Files.stores_of_create_append lens hcreate happend
  · exact ⟨data, hread, nonempty, hn, stores⟩
  · exact absurd hdevice (FileSystem.content?_ne_device_of_isFile isFile hfind device)

/-- A conversion goes by the files alone: it leaves them as they are where its input gives no
bytes, where its output cannot be made and where the output refuses the bytes; otherwise the
output has the frames of the image that was read, and every other file is what it was. -/
theorem Encoder.convert_safe (e : Encoder) (get : σ → FileSystem) (set : FileSystem → σ → σ)
    (directory : String) (lens : ∀ fs w, get (set fs w) = fs) (input output : String)
    (base : UInt32) (w : σ) :
    let convert := e.convert (Files.ofFileSystem get set directory) input output base w
    let source := Files.within directory input
    let target := Files.within directory output
    (∀ cause, (get w).read source = .error cause → convert = (.error (.io cause), w)) ∧
      ((get w).read source = .ok [] → convert = (.error (Fault.emptyInput input).error, w)) ∧
      ∀ data, (get w).read source = .ok data → data ≠ [] →
        (∀ cause, (get w).create target = .error cause → convert = (.error (.io cause), w)) ∧
        ∀ made id, (get w).create target = .ok (made, id) →
          (∀ cause, made.refusal? id = some cause →
            ∃ w', convert = (.error (.io cause), w') ∧ get w' = get w) ∧
          (made.refusal? id = none → ∃ (frames : List Bytes) (w' : σ),
            e.writeTo ⟨data, base⟩ [] = (frames.length, frames.flatten) ∧
              (∀ frame ∈ frames, frame.length = frameSize) ∧
              convert = (.ok frames.length, w') ∧
              (get w).Rewritten (get w') target id frames.flatten) := by
  intro convert source target
  let files := Files.ofFileSystem get set directory
  have reads : ∀ result, (get w).read source = result → files.read input w = (result, w) :=
    fun result h => Prod.ext h rfl
  refine ⟨fun cause failed => Encoder.convert_unread (reads _ failed),
    fun nothing => Encoder.convert_empty (reads _ nothing), fun data read nonempty => ?_⟩
  refine ⟨fun cause failed => ?_, fun made id created => ?_⟩
  · have fails : files.create output w = (.error cause, w) := by
      rw [Files.create_eq]
      exact Files.changing_of_error failed
    exact Encoder.convert_unmade (reads _ read) nonempty fails
  have makes : files.create output w = (.ok id, set made w) := by
    rw [Files.create_eq]
    exact Files.changing_of_ok created
  have goes : convert = _ := Encoder.convert_of_made (reads _ read) nonempty makes
  refine ⟨fun cause refused => ?_, fun takes => ?_⟩
  · rw [Files.append_of_refusal (by rw [lens, refused])] at goes
    exact ⟨set made w, goes, by rw [lens, FileSystem.eq_of_create_refusal created refused]⟩
  · rw [Files.append_of_takes (by rw [lens, takes]), lens] at goes
    obtain ⟨frames, written, sizes⟩ := e.exists_frames ⟨data, base⟩
    have count : (e.encode ⟨data, base⟩).length = frames.length := congrArg Prod.fst written
    have file : e.fileOf ⟨data, base⟩ = frames.flatten := congrArg Prod.snd written
    refine ⟨frames, set (made.append id (e.fileOf ⟨data, base⟩)) (set made w), written, sizes,
      ?_, ?_⟩
    · rw [← count]
      exact goes
    · rw [lens, ← file]
      exact FileSystem.rewritten_of_create created _

/-- A file that is converted onto itself is the UF2 file of what it held, and its neighbour is
what it was; without bytes it stays as it is. -/
theorem Encoder.convert_safe_onto_itself :
    let table (bytes : Bytes) : FileSystem :=
      ⟨[(0, ⟨.directory [("fw", 1), ("log", 2)], 0, 0⟩), (1, .ofBytes bytes false),
        (2, .ofBytes [9] false)], 0⟩
    let e := Encoder.ofFamily 5
    let convert (bytes : Bytes) := e.convert (Files.ofFileSystem id (fun fs _ => fs) "/")
      "fw" "/fw" 0x10000000 (table bytes)
    let file := e.writeTo ⟨[7, 8], 0x10000000⟩ []
    convert [] = (.error (Fault.emptyInput "fw").error, table []) ∧
      ∃ w', convert [7, 8] = (.ok file.1, w') ∧ (table [7, 8]).Rewritten w' "/fw" 1 file.2 := by
  intro table e convert file
  have lens : ∀ fs w : FileSystem, id ((fun fs _ => fs) fs w) = fs := fun _ _ => rfl
  have given : FileSystem.BelowRoot (Files.within "/" "fw") "fw" :=
    ⟨by decide, by decide, by decide, by decide, by decide, by decide⟩
  have stored : ∀ bytes, (table bytes).content? 1 = some (.file bytes) := fun _ => rfl
  have found : ∀ bytes, (table bytes).find (Files.within "/" "fw") = .ok 1 := fun bytes =>
    given.find rfl (FileSystem.isEnd_of_file (stored bytes))
  have reads : ∀ bytes, (table bytes).read (Files.within "/" "fw") = .ok bytes := fun bytes =>
    FileSystem.Stores.read ⟨1, found bytes, stored bytes⟩
  have same : Files.within "/" "/fw" = Files.within "/" "fw" := by decide
  have created : (table [7, 8]).create (Files.within "/" "/fw") = .ok (table [], 1) := by
    rw [same]
    exact FileSystem.create_of_find given.closed (found [7, 8]) (stored [7, 8])
  obtain ⟨-, refused, -⟩ :=
    Encoder.convert_safe e id (fun fs _ => fs) "/" lens "fw" "/fw" 0x10000000 (table [])
  obtain ⟨-, -, converted⟩ :=
    Encoder.convert_safe e id (fun fs _ => fs) "/" lens "fw" "/fw" 0x10000000 (table [7, 8])
  obtain ⟨-, made⟩ := converted [7, 8] (reads [7, 8]) (by decide)
  obtain ⟨frames, w', written, -, goes, rewritten⟩ := (made (table []) 1 created).2 rfl
  refine ⟨refused (reads []), w', ?_, ?_⟩
  · rw [show file = _ from written]
    exact goes
  · rw [show file = _ from written]
    have target : Files.within "/" "/fw" = "/fw" := by decide
    rwa [target] at rewritten

theorem Summary.ofPath_of_stores {path : String} {file : Bytes}
    (stores : (get w).Stores (Files.within directory path) file) :
    Summary.ofPath (Files.ofFileSystem get set directory) path w
      = (checked (Summary.ofFile file), w) := by
  have hread : (Files.ofFileSystem get set directory).read path w = (.ok file, w) :=
    Prod.ext stores.read rfl
  rw [Summary.ofPath, Action.bind_apply, Action.ofIo_eq_ok_iff.mpr hread]
  dsimp only
  cases checked (Summary.ofFile file) with
  | ok => rfl
  | error => rfl

end FileSystem

end BoardRig.Uf2
