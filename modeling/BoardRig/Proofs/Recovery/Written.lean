/-
# `BoardRig.Proofs.Recovery.Written` — what a deployment leaves on the volume

A deployment that succeeds made its file, wrote the content and saw it reach
the volume; after that it only waits.  So at the beginning of that wait its path
leads to a file with just this content (`Deployment.stores`), whatever had the
name before.  For an image it is the file that the encoder writes, which is
also what a conversion leaves (`deployed_as_converted`).

A file that is deployed is read only after the new one was made.  That is no
matter unless both are one file, which then has been emptied: it is deployed as
it was given if it was not deployed onto itself (`deployed_as_given_unless_own`),
and what was given is lost otherwise (`own_file_emptied`).
-/
import BoardRig.Proofs.Recovery.Deployment
import BoardRig.Proofs.Uf2.Conversion

namespace BoardRig.Orchestrator

variable {σ : Type} {get : σ → FileSystem} {set : FileSystem → σ → σ} {directory : String}
  {o : Orchestrator σ} {name dest : String} {w w' : σ} {es : List (Event σ)}

/-- A path leads to a file with these bytes when the last wait begins, and then at
its end too, if waiting leaves the files alone. -/
structure Leaves (o : Orchestrator σ) (get : σ → FileSystem) (path : String) (bytes : Bytes)
    (w : σ) : Prop where
  written : ∃ before, w = o.clock.sleep o.timings.uf2RebootSettle before ∧
    (get before).Stores path bytes
  stores : (∀ d w, get (o.clock.sleep d w) = get w) → (get w).Stores path bytes

theorem leaves_of_stores {path : String} {bytes : Bytes} (h : (get w).Stores path bytes) :
    o.Leaves get path bytes (o.clock.sleep o.timings.uf2RebootSettle w) := by
  refine ⟨⟨w, rfl, h⟩, fun still => ?_⟩
  rw [still]
  exact h

theorem Filling.stores {file : Nat} {path : String} {bytes : Bytes} {w₁ : σ}
    (lens : ∀ fs w, get (set fs w) = fs) (hfiles : o.files = Files.ofFileSystem get set directory)
    (created : o.files.create path w = (.ok file, w₁))
    (h : o.Filling file (Conduct.yields (.ok bytes)) es (.ok ())) (leads : Leads w₁ es w') :
    o.Leaves get (Files.within directory path) bytes w' := by
  cases h with
  | filled content =>
      obtain ⟨rfl, h⟩ := content
      cases h
      cases leads with
      | call append rest =>
          cases rest with
          | call sync rest =>
              cases rest with
              | call wait rest =>
                  cases rest
                  cases wait
                  have append : o.files.append file bytes _ = (.ok (), _) := append
                  have sync : o.files.sync file _ = (.ok (), _) := sync
                  rw [hfiles] at created append sync
                  obtain ⟨rfl, stores⟩ := Files.stores_of_sync lens created append sync
                  exact leaves_of_stores stores

theorem Deployment.stores {bytes : Bytes} (lens : ∀ fs w, get (set fs w) = fs)
    (hfiles : o.files = Files.ofFileSystem get set directory)
    (h : o.Deployment name (Conduct.yields (.ok bytes)) es (.ok dest)) (leads : Leads w es w') :
    o.Leaves get (Files.within directory dest) bytes w' := by
  cases h with
  | deployed volume filling =>
      obtain ⟨w₁, -, leads⟩ := leads.of_append
      cases leads with
      | call created rest => exact filling.stores lens hfiles created rest

theorem leaves_of_deployBlocks {blocks : List Uf2.Block} (lens : ∀ fs w, get (set fs w) = fs)
    (hfiles : o.files = Files.ofFileSystem get set directory)
    (deployed : o.deployBlocks name blocks w = (.ok dest, w')) :
    o.Leaves get (Files.within directory dest) (blocks.flatMap Uf2.Block.toFrame) w' := by
  obtain ⟨es, leads, h⟩ := (o.shows_deployBlocks name blocks).of_eq deployed
  cases h with
  | blocks _ deployment => exact deployment.stores lens hfiles leads

theorem deployBlocks_nil (o : Orchestrator σ) (name : String) (w : σ) :
    o.deployBlocks name [] w = (.error Uf2.Fault.noBlocks.error, w) :=
  rfl

/-- What is deployed for an image is the file that the encoder of the chip's
family writes for it, and so is what a conversion of the same bytes leaves; no
bytes are refused before anything is done. -/
theorem deployed_as_converted (o : Orchestrator σ) (get : σ → FileSystem)
    (set : FileSystem → σ → σ) (directory : String) (lens : ∀ fs w, get (set fs w) = fs)
    (hfiles : o.files = Files.ofFileSystem get set directory) (image : Uf2.Image) :
    let encoder := Uf2.Encoder.ofFamily o.profile.family
    let file := (encoder.writeTo image []).2
    (∀ name dest w w', o.deployImage name image w = (.ok dest, w') →
      o.Leaves get (Files.within directory dest) file w') ∧
    (∀ name dest w w', o.deployBlocks name (encoder.encode image) w = (.ok dest, w') →
      o.Leaves get (Files.within directory dest) file w') ∧
    (∀ input output n w w', encoder.convert o.files input output image.base w = (.ok n, w') →
      (get w).read (Files.within directory input) = .ok image.data →
      (get w').isFile (Files.within directory output) = true →
      (get w').Stores (Files.within directory output) file) ∧
    (image.data = [] →
      (∀ name w, ∃ text, o.deployImage name image w = (.error (.invalidImage text), w)) ∧
      (∀ name w, ∃ text, o.deployBlocks name (encoder.encode image) w
        = (.error (.invalidImage text), w)) ∧
      ∀ input output w, (get w).read (Files.within directory input) = .ok image.data →
        ∃ text, encoder.convert o.files input output image.base w
          = (.error (.invalidImage text), w)) := by
  intro encoder file
  have hfile : file = (encoder.encode image).flatMap Uf2.Block.toFrame := encoder.fileOf_eq image
  refine ⟨fun name dest w w' deployed => ?_, fun name dest w w' deployed => ?_,
    fun input output n w w' converted hread isFile => ?_, fun nothing => ⟨?_, ?_, ?_⟩⟩
  · rw [hfile]
    exact leaves_of_deployBlocks lens hfiles deployed
  · rw [hfile]
    exact leaves_of_deployBlocks lens hfiles deployed
  · rw [hfiles] at converted
    obtain ⟨data, hread', -, -, stores⟩ := Uf2.Encoder.stores_of_convert lens converted isFile
    cases hread.symm.trans hread'
    exact stores
  · intro name w
    rw [deployImage, encode_eq_nil _ nothing]
    exact ⟨_, o.deployBlocks_nil name w⟩
  · intro name w
    rw [encode_eq_nil _ nothing]
    exact ⟨_, o.deployBlocks_nil name w⟩
  · intro input output w hread
    rw [nothing] at hread
    rw [hfiles]
    exact ⟨_, Uf2.Encoder.convert_empty (Prod.ext hread rfl)⟩

/-- An image goes to the volume in the place of a longer file, and to the output
of a conversion. -/
theorem deployed_as_converted_over_longer_file :
    let table (raw out : Bytes) : FileSystem :=
      ⟨[(0, ⟨.directory [("raw", 1), ("fw", 2)], 0, 0⟩), (1, .ofBytes raw false),
        (2, .ofBytes out false)], 0⟩
    let files : Files FileSystem := .ofFileSystem id (fun fs _ => fs) "/"
    let clock : Clock FileSystem := ⟨fun _ => 0, fun _ fs => fs⟩
    let source : StorageSource FileSystem :=
      { mountTable := fun fs => (.error (.io .permissionDenied), fs)
        blockDevices := fun fs => (.ok [.mk "sda" (some "RPI-RP2") (some "/") [] []], fs)
        mount := fun _ fs => (.ok (), fs) }
    let handing : Files FileSystem :=
      { files with
        scratch := fun _ fs => (.ok "/tmp/bytes", fs)
        discard := fun _ fs => ((), fs) }
    let o : Orchestrator FileSystem :=
      { profile := .rp2040, timings := {}
        probe := ⟨⟨fun _ fs => (.ok (.ok ""), fs)⟩, handing, "rp2040", "probe-rs"⟩
        usb := ⟨⟨fun fs => ([], fs), fun _ fs => (.error .noSuchFile, fs)⟩, clock, 500⟩
        storage := ⟨source, clock, 500⟩, files, clock }
    let image : Uf2.Image := ⟨[7, 8], 0x10000000⟩
    let file := ((Uf2.Encoder.ofFamily o.profile.family).writeTo image []).2
    (∃ w', o.deployImage "fw" image (table [7, 8] (List.replicate 600 1)) = (.ok "/fw", w') ∧
      o.Leaves id "/fw" file w') ∧
    (∃ w', o.deployBlocks "fw" ((Uf2.Encoder.ofFamily o.profile.family).encode image)
        (table [7, 8] (List.replicate 600 1)) = (.ok "/fw", w') ∧
      o.Leaves id "/fw" file w') ∧
    (∃ n w', (Uf2.Encoder.ofFamily o.profile.family).convert o.files "raw" "/fw" image.base
        (table [7, 8] (List.replicate 600 1)) = (.ok n, w') ∧
      w'.Stores "/fw" file) ∧
    ∃ text, o.deployImage "fw" ⟨[], 0x10000000⟩ (table [] []) =
      (.error (.invalidImage text), table [] []) := by
  intro table files clock source handing o image file
  have lens : ∀ fs w : FileSystem, id ((fun fs _ => fs) fs w) = fs := fun _ _ => rfl
  obtain ⟨deployedImage, deployedBlocks, converted, -⟩ :=
    deployed_as_converted o id (fun fs _ => fs) "/" lens rfl image
  obtain ⟨-, -, -, refused⟩ :=
    deployed_as_converted o id (fun fs _ => fs) "/" lens rfl ⟨[], 0x10000000⟩
  have hdest : Files.within "/" "/fw" = "/fw" := by decide
  have raw : FileSystem.BelowRoot (Files.within "/" "raw") "raw" :=
    ⟨by decide, by decide, by decide, by decide, by decide, by decide⟩
  have fw : FileSystem.BelowRoot (Files.within "/" "/fw") "fw" :=
    ⟨by decide, by decide, by decide, by decide, by decide, by decide⟩
  have hread : ∀ old, files.read "raw" (table [7, 8] old) = (.ok [7, 8], table [7, 8] old) :=
    fun old => Files.read_of_belowRoot raw rfl rfl
  have hcreate : ∀ old, files.create "/fw" (table [7, 8] old) = (.ok 2, table [7, 8] []) := by
    intro old
    have stored : (id (table [7, 8] old)).content? 2 = some (.file old) := rfl
    exact Files.create_of_belowRoot fw rfl stored
  have happend : ∀ bytes,
      files.append 2 bytes (table [7, 8] []) = (.ok (), table [7, 8] bytes) := fun _ => rfl
  have isFile : ∀ bytes, (id (table [7, 8] bytes)).isFile (Files.within "/" "/fw") = true := by
    intro bytes
    have stored : (id (table [7, 8] bytes)).content? 2 = some (.file bytes) := rfl
    exact Files.isFile_of_belowRoot fw rfl stored
  have labelled : BlockDevice.findLabelled? "RPI-RP2" [.mk "sda" (some "RPI-RP2") (some "/") [] []]
      = some (.mk "sda" (some "RPI-RP2") (some "/") [] []) := by
    rw [BlockDevice.findLabelled?, BlockDevice.walk, BlockDevice.walkFrom_eq_preorderAll]
    rfl
  have volume : ∀ fs, o.enterMassStorage fs = (.ok "/", fs) := by
    intro fs
    have located : o.storage.locateOnce "RPI-RP2" fs = (some "/", fs) := by
      change o.storage.findListed "RPI-RP2" fs = _
      rw [VolumeLocator.findListed, show o.storage.source.blockDevices fs = (.ok _, fs) from rfl]
      simp only [labelled]
      rfl
    have found : Action.total (o.storage.locateOnce "RPI-RP2") fs = (.ok (some "/"), fs) := by
      rw [Action.total, located]
    change o.storage.find "RPI-RP2" o.timings.volumeTimeout fs = _
    rw [VolumeLocator.find, Action.onTimeout, Poll.wait_of_found found]
  have written : ∀ (blocks : List Uf2.Block) (old : Bytes), blocks ≠ [] →
      o.deployBlocks "fw" blocks (table [7, 8] old)
        = (.ok "/fw", table [7, 8] (blocks.flatMap Uf2.Block.toFrame)) := by
    intro blocks old some
    rw [deployBlocks, List.isEmpty_eq_false_iff.mpr some]
    refine Action.bind_eq_ok_iff.mpr ⟨"/", _, volume _, ?_⟩
    refine Action.bind_eq_ok_iff.mpr ⟨2, _, Action.ofIo_eq_ok_iff.mpr (hcreate old), ?_⟩
    refine Action.bind_eq_ok_iff.mpr ⟨_, _, rfl, ?_⟩
    exact Action.bind_eq_ok_iff.mpr ⟨(), _, Action.ofIo_eq_ok_iff.mpr (happend _), rfl⟩
  have some : (Uf2.Encoder.ofFamily o.profile.family).encode image ≠ [] := by
    rw [← List.length_pos_iff, Uf2.Encoder.length_encode]
    decide
  have deployed := written _ (List.replicate 600 1) some
  have hconvert : (Uf2.Encoder.ofFamily o.profile.family).convert files "raw" "/fw" image.base
      (table [7, 8] (List.replicate 600 1)) = (.ok 1, table [7, 8] file) := by
    refine Uf2.Encoder.convert_eq_ok_iff.mpr ⟨[7, 8], _, 2, _, hread _, List.cons_ne_nil _ _,
      hcreate _, happend _, ?_⟩
    rw [Uf2.Encoder.length_encode]
    decide
  exact ⟨⟨_, deployed, hdest ▸ deployedImage _ _ _ _ deployed⟩,
    ⟨_, deployed, hdest ▸ deployedBlocks _ _ _ _ deployed⟩,
    ⟨1, _, hconvert,
      hdest ▸ converted _ _ _ _ _ hconvert (congrArg Prod.fst (hread _)) (isFile _)⟩,
    (refused rfl).1 _ _⟩

/-! ## Files

For a file that is copied the source is read after the copy was made, so it matters
whether both are one node. -/

theorem deploy_eq_ok_iff {content : Action σ Bytes} :
    o.deploy name content w = (.ok dest, w') ↔
      ∃ root w₁ file w₂ bytes w₃ w₄ w₅, o.enterMassStorage w = (.ok root, w₁) ∧
        o.files.create (Path.join root name) w₁ = (.ok file, w₂) ∧
        content w₂ = (.ok bytes, w₃) ∧ o.files.append file bytes w₃ = (.ok (), w₄) ∧
        o.files.sync file w₄ = (.ok (), w₅) ∧
        dest = Path.join root name ∧ w' = o.clock.sleep o.timings.uf2RebootSettle w₅ := by
  simp only [deploy, Action.bind_eq_ok_iff, Action.ofIo_eq_ok_iff]
  constructor
  · rintro ⟨root, w₁, entered, file, w₂, created, bytes, w₃, read, ⟨⟩, w₄, written, ⟨⟩, w₅, synced,
      ⟨⟩, _, paused, done⟩
    cases paused
    cases done
    exact ⟨root, w₁, file, w₂, bytes, w₃, w₄, w₅, entered, created, read, written, synced, rfl, rfl⟩
  · rintro ⟨root, w₁, file, w₂, bytes, w₃, w₄, w₅, entered, created, read, written, synced, rfl,
      rfl⟩
    exact ⟨root, w₁, entered, file, w₂, created, bytes, w₃, read, (), w₄, written, (), w₅, synced,
      (), _, rfl, rfl⟩

theorem deployFile_eq_ok_iff {path : String} :
    o.deployFile path w = (.ok dest, w') ↔
      ∃ name source w₁, Path.fileName? path = some name ∧
        o.files.openSource path w = (.ok source, w₁) ∧
        o.deploy name (Action.ofIo (o.files.contents source)) w₁ = (.ok dest, w') := by
  rw [deployFile]
  cases Path.fileName? path with
  | none =>
      constructor
      · intro refused
        cases refused
      · rintro ⟨_, _, _, named, -⟩
        cases named
  | some name =>
      simp only [Action.bind_eq_ok_iff, Action.ofIo_eq_ok_iff, Option.some.injEq]
      constructor
      · rintro ⟨source, w₁, opened, deployed⟩
        exact ⟨name, source, w₁, rfl, opened, deployed⟩
      · rintro ⟨_, source, w₁, rfl, opened, deployed⟩
        exact ⟨source, w₁, opened, deployed⟩

/-- All that a deployment needs, in a world of files alone: the tool does what it is asked
for, no time passes, and the volume is at a path. -/
def onVolume (mount : String) : Orchestrator FileSystem :=
  let files : Files FileSystem := .ofFileSystem id (fun fs _ => fs) "/"
  let clock : Clock FileSystem := ⟨fun _ => 0, fun _ fs => fs⟩
  let tool : Files FileSystem :=
    { files with scratch := fun _ fs => (.ok "/tmp/bytes", fs), discard := fun _ fs => ((), fs) }
  { profile := .rp2040, timings := {}
    probe := ⟨⟨fun _ fs => (.ok (.ok ""), fs)⟩, tool, "rp2040", "probe-rs"⟩
    usb := ⟨⟨fun fs => ([], fs), fun _ fs => (.error .noSuchFile, fs)⟩, clock, 500⟩
    storage :=
      { source :=
          { mountTable := fun fs => (.error (.io .permissionDenied), fs)
            blockDevices := fun fs => (.ok [.mk "sda" (some "RPI-RP2") (some mount) [] []], fs)
            mount := fun _ fs => (.ok (), fs) }
        clock
        interval := 500 }
    files, clock }

theorem onVolume_enterMassStorage {mount : String} (given : mount ≠ "") (fs : FileSystem) :
    (onVolume mount).enterMassStorage fs = (.ok mount, fs) := by
  have labelled : BlockDevice.findLabelled? "RPI-RP2"
      [.mk "sda" (some "RPI-RP2") (some mount) [] []]
        = some (.mk "sda" (some "RPI-RP2") (some mount) [] []) := by
    rw [BlockDevice.findLabelled?, BlockDevice.walk_eq_preorderAll]
    rfl
  have mounted : BlockDevice.mountPoint? (.mk "sda" (some "RPI-RP2") (some mount) [] [])
      = some mount := by
    simp [BlockDevice.mountPoint?, BlockDevice.singleMountPoint, BlockDevice.manyMountPoints, given]
  have located : (onVolume mount).storage.locateOnce "RPI-RP2" fs = (some mount, fs) := by
    have listed : (onVolume mount).storage.source.blockDevices fs
        = (.ok [.mk "sda" (some "RPI-RP2") (some mount) [] []], fs) := rfl
    change (onVolume mount).storage.findListed "RPI-RP2" fs = _
    rw [VolumeLocator.findListed, listed]
    simp only [labelled, mounted]
  have found : Action.total ((onVolume mount).storage.locateOnce "RPI-RP2") fs
      = (.ok (some mount), fs) := by
    rw [Action.total, located]
  change (onVolume mount).storage.find "RPI-RP2" (onVolume mount).timings.volumeTimeout fs = _
  rw [VolumeLocator.find, Action.onTimeout, Poll.wait_of_found found]

/-- What is deployed is what was given, as it was at the beginning, unless it was deployed
onto itself: then the path of the volume leads to the file that was given, and that one is
empty when the last wait begins. Nothing else is needed of the two paths, and nothing of
what the volume holds; only nobody else may have changed the file by the time that the
volume is there. -/
theorem deployed_as_given_unless_own (o : Orchestrator σ) (get : σ → FileSystem)
    (set : FileSystem → σ → σ) (directory path dest : String) (source : Nat) (bytes : Bytes)
    (w w' : σ) (lens : ∀ fs w, get (set fs w) = fs)
    (hfiles : o.files = Files.ofFileSystem get set directory)
    (opened : (get w).find (Files.within directory path) = .ok source)
    (held : (get w).contentOf source = .ok bytes)
    (spared : ∀ root w₁, o.enterMassStorage w = (.ok root, w₁) →
      (get w₁).contentOf source = (get w).contentOf source)
    (deployed : o.deployFile path w = (.ok dest, w')) :
    ∃ name root w₁ w₂, Path.fileName? path = some name ∧ o.enterMassStorage w = (.ok root, w₁) ∧
      dest = Path.join root name ∧ w' = o.clock.sleep o.timings.uf2RebootSettle w₂ ∧
      let own := (get w₁).find (Files.within directory dest) = .ok source
      let left := if own then [] else bytes
      (get w₂).Stores (Files.within directory dest) left ∧
        (get w₂).contentOf source = .ok left ∧
        ((get w₂).Stores (Files.within directory dest) bytes ↔ ¬ own ∨ bytes = []) := by
  obtain ⟨name, source', w₀, named, openedSource, deployed⟩ := deployFile_eq_ok_iff.mp deployed
  obtain ⟨root, w₁, file, w₂, content, w₃, w₄, w₅, entered, created, read, written, synced, rfl,
    rfl⟩ := deploy_eq_ok_iff.mp deployed
  rw [Action.ofIo_eq_ok_iff] at read
  rw [hfiles] at openedSource created read written synced
  -- The file is opened and looked at without a change.
  obtain ⟨found, rfl⟩ := Prod.mk.inj openedSource
  obtain rfl : source' = source := Except.ok.inj (found.symm.trans opened)
  obtain ⟨looked, rfl⟩ := Prod.mk.inj read
  obtain ⟨same, kept⟩ := Files.contentOf_of_create lens ((spared _ _ entered).trans held) created
  obtain rfl : content = if file = source' then [] else bytes :=
    Except.ok.inj (looked.symm.trans kept)
  obtain ⟨rfl, stores⟩ := Files.stores_of_sync lens created written synced
  have after : (get w₅).contentOf source' = .ok (if file = source' then [] else bytes) := by
    rw [Files.append_eq_ok written, lens, FileSystem.contentOf_append, kept]
    by_cases onto : file = source'
    · exact .inr (if_pos onto)
    · exact .inl onto
  refine ⟨name, root, w₁, w₅, named, entered, rfl, rfl, ?_⟩
  dsimp only
  simp only [same] at stores after
  refine ⟨stores, after, fun given => ?_, fun h => ?_⟩
  · have equal := Except.ok.inj (stores.read.symm.trans given.read)
    split_ifs at equal with onto
    · exact .inr equal.symm
    · exact .inl onto
  · obtain other | rfl := h
    · rwa [if_neg other] at stores
    · rwa [ite_self] at stores

/-- A file goes to the volume in the place of a longer one of the same name. -/
theorem deployed_as_given_unless_own_over_longer_file :
    let table (given stored : Bytes) : FileSystem :=
      ⟨[(0, ⟨.directory [("fw.uf2", 1), ("vol", 2)], 0, 0⟩), (1, .ofBytes given false),
        (2, ⟨.directory [("fw.uf2", 3)], 0, 0⟩), (3, .ofBytes stored false)], 0⟩
    ∃ w', (onVolume "/vol").deployFile "fw.uf2" (table [7, 8] (List.replicate 600 1))
        = (.ok "/vol/fw.uf2", w') ∧
      w'.Stores (Files.within "/" "/vol/fw.uf2") [7, 8] ∧ w'.contentOf 1 = .ok [7, 8] := by
  intro table
  have given : FileSystem.BelowRoot (Files.within "/" "fw.uf2") "fw.uf2" :=
    ⟨by decide, by decide, by decide, by decide, by decide, by decide⟩
  have opened : ∀ old, (table [7, 8] old).find (Files.within "/" "fw.uf2") = .ok 1 := by
    intro old
    have stored : (table [7, 8] old).content? 1 = some (.file [7, 8]) := rfl
    exact given.find rfl (FileSystem.isEnd_of_file stored)
  have there : ∀ old, (table [7, 8] old).find (Files.within "/" "/vol/fw.uf2") = .ok 3 := by
    intro old
    have stored : (table [7, 8] old).content? 3 = some (.file old) := rfl
    have steps : FileSystem.stepsOf (Files.within "/" "/vol/fw.uf2") = ["vol", "fw.uf2"] := by
      decide
    have ends : (table [7, 8] old).follow FileSystem.linkLimit [2, FileSystem.root] ["fw.uf2"]
        = .ok (.node 3) :=
      FileSystem.follow_end (by decide) (by decide) (by decide) rfl
        (FileSystem.isEnd_of_file stored)
    have leads : (table [7, 8] old).place (Files.within "/" "/vol/fw.uf2") = .ok (.node 3) := by
      rw [FileSystem.place, steps]
      refine bind_eq_ok_iff.mpr ⟨(), by decide, ?_⟩
      rwa [FileSystem.follow_directory ["fw.uf2"] (by decide) (by decide) (by decide) rfl rfl]
    rw [FileSystem.find]
    exact bind_eq_ok_iff.mpr ⟨_, leads, rfl⟩
  have created : ∀ old, (onVolume "/vol").files.create "/vol/fw.uf2" (table [7, 8] old)
      = (.ok 3, table [7, 8] []) := by
    intro old
    have stored : (table [7, 8] old).content? 3 = some (.file old) := rfl
    exact Files.create_of_find (by decide) (there old) stored
  have entered : ∀ fs, (onVolume "/vol").enterMassStorage fs = (.ok "/vol", fs) :=
    onVolume_enterMassStorage (by decide)
  have deployed : (onVolume "/vol").deployFile "fw.uf2" (table [7, 8] (List.replicate 600 1))
      = (.ok "/vol/fw.uf2", table [7, 8] [7, 8]) := by
    refine deployFile_eq_ok_iff.mpr ⟨"fw.uf2", 1, _, by decide, congrArg (·, _) (opened _), ?_⟩
    exact deploy_eq_ok_iff.mpr ⟨"/vol", _, 3, _, [7, 8], _, _, _, entered _, created _, rfl, rfl,
      rfl, by decide, rfl⟩
  obtain ⟨name, root, w₁, w₂, -, entered', -, settled, stores, kept, -⟩ :=
    deployed_as_given_unless_own (onVolume "/vol") id (fun fs _ => fs) "/" "fw.uf2" "/vol/fw.uf2" 1
      [7, 8] _ _ (fun _ _ => rfl) rfl (opened _) rfl
      (fun root w₁ h => by cases (entered _).symm.trans h; rfl) deployed
  cases (entered _).symm.trans entered'
  have other : (id (table [7, 8] (List.replicate 600 1))).find (Files.within "/" "/vol/fw.uf2")
      ≠ .ok 1 := by
    rw [id, there]
    decide
  rw [if_neg other] at stores kept
  rw [show w₂ = table [7, 8] [7, 8] from settled.symm] at stores kept
  exact ⟨_, deployed, stores, kept⟩

/-- A file that lies where it is deployed to is emptied, and its bytes are lost. -/
theorem own_file_emptied :
    let table (given : Bytes) : FileSystem :=
      ⟨[(0, ⟨.directory [("fw.uf2", 1)], 0, 0⟩), (1, .ofBytes given false)], 0⟩
    (table [7, 8]).read "/fw.uf2" = .ok [7, 8] ∧
      (onVolume "/").deployFile "/fw.uf2" (table [7, 8]) = (.ok "/fw.uf2", table []) ∧
      (table []).read "/fw.uf2" = .ok [] := by
  intro table
  have file : FileSystem.BelowRoot "/fw.uf2" "fw.uf2" :=
    ⟨by decide, by decide, by decide, by decide, by decide, by decide⟩
  have found : ∀ given, (table given).find "/fw.uf2" = .ok 1 := by
    intro given
    have stored : (table given).content? 1 = some (.file given) := rfl
    exact file.find rfl (FileSystem.isEnd_of_file stored)
  have read : ∀ given, (table given).read "/fw.uf2" = .ok given := fun given =>
    FileSystem.Stores.read ⟨1, found given, rfl⟩
  have created : (onVolume "/").files.create "/fw.uf2" (table [7, 8]) = (.ok 1, table []) :=
    Files.create_of_belowRoot file rfl rfl
  refine ⟨read _, ?_, read _⟩
  refine deployFile_eq_ok_iff.mpr ⟨"fw.uf2", 1, _, by decide, congrArg (·, _) (found _), ?_⟩
  exact deploy_eq_ok_iff.mpr ⟨"/", _, 1, _, [], _, _, _, onVolume_enterMassStorage (by decide) _,
    created, rfl, rfl, rfl, by decide, rfl⟩

end BoardRig.Orchestrator
