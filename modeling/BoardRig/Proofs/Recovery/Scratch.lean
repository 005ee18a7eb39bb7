/-
# `BoardRig.Proofs.Recovery.Scratch` — files that the probe's tool is handed

An operation of the probe runs its tool once, and what it has to hand over is
in a scratch file while the tool runs, and in no file any more when it ends
(`Performed`).  This is so whatever the runner answers: the steps of an operation
do not depend on it (`exists_performed`).  So the files after any sequence of
operations are those before it (`sameFiles_after`), and with them whatever is
read at some path.
-/
import BoardRig.Proofs.FileSystem.Scratch
import BoardRig.Proofs.Recovery.Tool

namespace BoardRig.Probe

open FileSystem (SameFiles)

variable {σ : Type}

/-! ## Operations -/

/-- An operation of the probe. -/
inductive Operation where
  | eraseChip
  | downloadElf (elf : String)
  | programBinary (address : UInt32) (data : Bytes)
  | fill (address : UInt32) (length : Nat) (byte : UInt8)
  | reset
  | writeWord (address value : UInt32)
  | readWord (address : UInt32)

def perform (p : Probe σ) : Operation → StateM σ CommandResult
  | .eraseChip => p.eraseChip
  | .downloadElf elf => p.downloadElf elf
  | .programBinary address data => p.programBinary address data
  | .fill address length byte => p.fill address length byte
  | .reset => p.reset
  | .writeWord address value => p.writeWord address value
  | .readWord address => do return (← p.readWord address).1

def after (p : Probe σ) (ops : List Operation) (w : σ) : σ :=
  ops.foldl (fun w op => (p.perform op w).2) w

/-- What an operation asks of the tool: a command, or to write bytes to an address. -/
def Operation.task (p : Probe σ) : Operation → Invocation ⊕ UInt32 × Bytes
  | .eraseChip => .inl (p.subcommand "erase" [])
  | .downloadElf elf => .inl (p.subcommand "download" [elf])
  | .programBinary address data => .inr (address, data)
  | .fill address length byte => .inr (address, List.replicate length byte)
  | .reset => .inl (p.subcommand "reset" [])
  | .writeWord address value =>
    .inl (p.subcommand "write"
      ["b32", Radix.argument address.toNat, Radix.argument value.toNat])
  | .readWord address => .inl (p.subcommand "read" ["b32", Radix.argument address.toNat, "1"])

variable {p : Probe σ} {op : Operation}

theorem perform_command {i : Invocation} (h : op.task p = .inl i) :
    p.perform op = p.execute i := by
  cases op with
  | readWord address =>
      cases h
      funext s
      simp only [perform, readWord, bind, StateT.bind]
      rcases p.execute _ s with ⟨result, s'⟩
      rfl
  | programBinary => cases h
  | fill => cases h
  | eraseChip => cases h; rfl
  | downloadElf => cases h; rfl
  | reset => cases h; rfl
  | writeWord => cases h; rfl

theorem perform_download {address : UInt32} {data : Bytes} (h : op.task p = .inr (address, data)) :
    p.perform op = p.programBinary address data := by
  cases op with
  | programBinary => cases h; rfl
  | fill => cases h; rfl
  | eraseChip => cases h
  | downloadElf => cases h
  | reset => cases h
  | writeWord => cases h
  | readWord => cases h

/-! ## One operation

While the tool runs the bytes are in a scratch file, and afterwards every path leads
where it led before.  The answer of the runner is not looked at. -/

/-- What an operation does in the world `w`. -/
inductive Performed (p : Probe σ) (get : σ → FileSystem) (w : σ) (op : Operation) :
    List (Event σ) → CommandResult → Prop where
  /-- The tool is run once. -/
  | ran {i : Invocation} {answer : Except Error CommandResult} (command : op.task p = .inl i) :
      Performed p get w op [.probe p i answer] (resultOf answer)
  /-- A new file holds the bytes, the tool is run once with its path as the last argument, and
  the file is removed. -/
  | handed {address : UInt32} {data : Bytes} {path : String} {answer : Except Error CommandResult}
      (bytes : op.task p = .inr (address, data))
      (new : (get w).find path = .error .noSuchFile)
      (stored : (get (p.files.scratch data w).2).read path = .ok data)
      (named : (p.downloadCommand address path).args.getLast? = some path) :
      Performed p get w op
        [.scratch p.files data (.ok path), .probe p (p.downloadCommand address path) answer,
          .discard p.files path] (resultOf answer)
  /-- There is no file to hand over, and the tool is not run. -/
  | unwritable {address : UInt32} {data : Bytes} {cause : IoError}
      (bytes : op.task p = .inr (address, data)) :
      Performed p get w op [.scratch p.files data (.error cause)]
        (.failed ("cannot write scratch file: " ++ cause.text))

section Files

variable {get : σ → FileSystem} {set : FileSystem → σ → σ} {directory : String}
  (lens : ∀ fs w, get (set fs w) = fs)
  (hfiles : p.files = Files.ofFileSystem get set directory)
  (quiet : ∀ i w, get (p.runner.run i w).2 = get w)

include lens hfiles quiet

theorem exists_performed (op : Operation) (w : σ) :
    ∃ es, Leads w es (p.perform op w).2 ∧ Performed p get w op es (p.perform op w).1 ∧
      SameFiles (get w) (get (p.perform op w).2) := by
  rcases task : op.task p with i | ⟨address, data⟩
  · rw [perform_command task, execute_eq]
    refine ⟨[.probe p i (p.runner.run i w).1], .single rfl, .ran task, ?_⟩
    rw [quiet]
    exact .refl _
  · rw [perform_download task, programBinary_eq]
    rcases hscratch : p.files.scratch data w with ⟨cause | path, w₁⟩
    · refine ⟨[.scratch p.files data (.error cause)], .single hscratch, .unwritable task, ?_⟩
      rw [hfiles] at hscratch
      rw [Files.scratch_eq_error hscratch]
      exact .refl _
    · let command := p.downloadCommand address path
      let w₂ := (p.runner.run command w₁).2
      have scratched : Event.Happens (.scratch p.files data (.ok path)) w w₁ := hscratch
      have ran : Event.Happens (.probe p command (p.runner.run command w₁).1) w₁ w₂ := rfl
      have discarded : Event.Happens (.discard p.files path) w₂ (p.files.discard path w₂).2 := rfl
      have made := hscratch
      rw [hfiles] at made
      obtain ⟨new, stores, same⟩ := Files.scratch_eq_ok lens made
      have stored : (get (p.files.scratch data w).2).read path = .ok data := by
        rw [hscratch]
        exact stores.read
      have removed : get (p.files.discard path w₂).2 = (get w₁).remove path := by
        rw [hfiles]
        exact (lens _ _).trans (congrArg (·.remove path) (quiet command w₁))
      dsimp only
      rw [execute_eq]
      refine ⟨_, .call scratched (.call ran (.single discarded)), .handed task new stored rfl, ?_⟩
      rw [removed]
      exact same

/-- No sequence of operations leaves a file behind or changes one. -/
theorem sameFiles_after (ops : List Operation) (w : σ) :
    SameFiles (get w) (get (p.after ops w)) := by
  induction ops generalizing w with
  | nil => exact .refl _
  | cons op ops ih =>
      obtain ⟨-, -, -, same⟩ := exists_performed lens hfiles quiet op w
      exact same.trans (ih _)

end Files

/-- After any operations, the next one runs the tool once, and hands it its bytes in a new file
that is gone when the operation ends, whatever the runner answers. The files are then those
before it, and those before all of the operations. -/
theorem scratch_never_left (p : Probe σ) (get : σ → FileSystem) (set : FileSystem → σ → σ)
    (directory : String) (lens : ∀ fs w, get (set fs w) = fs)
    (hfiles : p.files = Files.ofFileSystem get set directory)
    (quiet : ∀ i w, get (p.runner.run i w).2 = get w) (before : List Operation) (op : Operation)
    (w : σ) (closed : (get w).Closed) :
    let w₀ := p.after before w
    let w' := (p.perform op w₀).2
    (∃ es, Leads w₀ es w' ∧ Performed p get w₀ op es (p.perform op w₀).1) ∧
      SameFiles (get w₀) (get w') ∧ SameFiles (get w) (get w') ∧
      ∀ path, (get w').read path = (get w).read path := by
  intro w₀ w'
  obtain ⟨es, leads, performed, same⟩ := exists_performed lens hfiles quiet op w₀
  have all : SameFiles (get w) (get w') :=
    (sameFiles_after lens hfiles quiet before w).trans same
  exact ⟨⟨es, leads, performed⟩, same, all, all.read closed⟩

/-- A table with nothing but an empty directory for scratch files. -/
def bare : FileSystem :=
  ⟨[(0, ⟨.directory [("tmp", 1)], 0, 0⟩), (1, .emptyDirectory)], 0⟩

theorem closed_bare : bare.Closed := by
  refine ⟨⟨_, rfl⟩, fun d name n h => ?_⟩
  match d with
  | 0 =>
      have h : List.lookup name [("tmp", 1)] = some n := h
      rw [List.lookup_cons] at h
      split at h
      · cases h
        exact ⟨_, rfl⟩
      · cases h
  | 1 => cases h
  | d + 2 => cases h

theorem find_bare : bare.find FileSystem.scratchDirectory = .ok 1 := by
  have parts : FileSystem.stepsOf FileSystem.scratchDirectory = ["tmp"] := by decide
  have leads : bare.follow FileSystem.linkLimit [FileSystem.root] ["tmp"] = .ok (.node 1) := by
    rw [FileSystem.follow_directory [] (by decide) (by decide) (by decide) rfl rfl,
      FileSystem.follow]
    rfl
  refine bind_eq_ok_iff.mpr ⟨.node 1, bind_eq_ok_iff.mpr ⟨(), by decide, ?_⟩, rfl⟩
  rw [parts]
  exact leads

theorem exists_scratch_bare (data : Bytes) :
    ∃ fs, (Files.ofFileSystem id (fun fs _ => fs) "/").scratch data bare
      = (.ok "/tmp/crispy-probe-000000.bin", fs) := by
  have listed : bare.names FileSystem.scratchDirectory = .ok [] :=
    bind_eq_ok_iff.mpr ⟨1, find_bare, rfl⟩
  have free : bare.freeScratchPath = "/tmp/crispy-probe-000000.bin" := by
    rw [FileSystem.freeScratchPath, listed]
    decide
  have first : FileSystem.scratchDirectory ++ "/" ++ FileSystem.scratchName 0
      = "/tmp/crispy-probe-000000.bin" := by decide
  have named := FileSystem.names_scratchName 0
  obtain ⟨fs, written⟩ := named.exists_write find_bare rfl rfl (by decide) (by decide) data
  rw [first] at written
  refine ⟨fs, ?_⟩
  rw [Files.scratch_eq]
  refine Files.changing_of_ok ?_
  rw [id, free]
  exact bind_eq_ok_iff.mpr ⟨fs, written, rfl⟩

/-- A tool that is never in time: the bytes are there for it, it fails, and they are gone. -/
theorem scratch_never_left_of_timeout :
    let p : Probe FileSystem :=
      { runner := ⟨fun _ fs => (.error (.timeout "probe-rs"), fs)⟩
        files := .ofFileSystem id (fun fs _ => fs) "/"
        chip := "rp2040" }
    let data : Bytes := List.replicate 4096 0xFF
    let w' := (p.perform (.fill 0x10190000 4096 0xFF) (p.after [.reset] bare)).2
    (p.files.scratch data bare).2.read "/tmp/crispy-probe-000000.bin" = .ok data ∧
      SameFiles bare w' ∧ w'.read "/tmp/crispy-probe-000000.bin" = .error .noSuchFile := by
  intro p data w'
  have lens : ∀ fs w : FileSystem, id ((fun fs _ => fs) fs w) = fs := fun _ _ => rfl
  obtain ⟨-, -, same, reads⟩ :=
    scratch_never_left p id (fun fs _ => fs) "/" lens rfl (fun _ _ => rfl)
      [.reset] (.fill 0x10190000 4096 0xFF) bare closed_bare
  obtain ⟨fs, made⟩ := exists_scratch_bare data
  obtain ⟨new, stores, -⟩ := Files.scratch_eq_ok lens made
  refine ⟨?_, same, (reads _).trans ?_⟩
  · rw [show p.files.scratch data bare = _ from made]
    exact stores.read
  · have new : bare.find "/tmp/crispy-probe-000000.bin" = .error .noSuchFile := new
    change bare.read "/tmp/crispy-probe-000000.bin" = _
    rw [FileSystem.read, new]
    rfl

end BoardRig.Probe
