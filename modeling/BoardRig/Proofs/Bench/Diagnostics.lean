/-
# `BoardRig.Proofs.Bench.Diagnostics` — what the upload utility says on the side

A runner is silenced by taking the diagnostics away from its successes
(`Runner.silenced`).  Where the diagnostics of a status stand apart from its
output (`Runner.KeepsApart`), the difference cannot be seen: the status that is
read, the scenarios that end with one, and the answer that shows one are the same
with the runner and with the silenced runner (`diagnostics_unread`).  A status
whose output does not end its last line is read together with its diagnostics,
and then the update mode can be missed (`diagnostics_hide_updateMode`).
-/
import BoardRig.Answer.Conversations
import BoardRig.Bench
import BoardRig.Proofs.Outcome
import BoardRig.Proofs.Serial.Talk
import BoardRig.Proofs.Status.Diagnostics
import BoardRig.Proofs.Usb.Device

namespace BoardRig

variable {σ α : Type}

/-! ## Runs without diagnostics

Diagnostics are taken away from successes only, since an error quotes them. -/

/-- The result without diagnostics, if it is a success. -/
def CommandResult.silenced (r : CommandResult) : CommandResult :=
  if r.success then { r with stderr := "" } else r

theorem CommandResult.silenced_of_success {r : CommandResult} (h : r.success = true) :
    r.silenced = { r with stderr := "" } :=
  if_pos h

theorem CommandResult.silenced_of_failure {r : CommandResult} (h : r.success = false) :
    r.silenced = r :=
  if_neg (h ▸ Bool.false_ne_true)

/-- The runner whose successes have no diagnostics. -/
def Runner.silenced (r : Runner σ) : Runner σ where
  run i s :=
    match r.run i s with
    | (.ok result, s') => (.ok result.silenced, s')
    | (.error e, s') => (.error e, s')

/-- When a status is told with success, the diagnostics stand apart from the output. -/
def Runner.KeepsApart (r : Runner σ) : Prop :=
  ∀ i s result s', i.args.getLast? = some "status" → r.run i s = (.ok result, s') →
    result.success = true → BootloaderStatus.Apart result

def UploadClient.silenced (c : UploadClient σ) : UploadClient σ :=
  { c with runner := c.runner.silenced }

def Bench.silenced (b : Bench σ) : Bench σ :=
  { b with upload := b.upload.silenced }

def Rig.silenced (rig : Rig σ) : Rig σ :=
  { rig with runner := rig.runner.silenced }

namespace BootloaderStatus

theorem parse_silenced {r : CommandResult} (apart : r.success = true → Apart r) :
    parse r.silenced.combined = parse r.combined := by
  cases success : r.success with
  | false => rw [CommandResult.silenced_of_failure success]
  | true =>
      rw [CommandResult.silenced_of_success success, parse_combined (apart success),
        CommandResult.combined, String.append_empty]

end BootloaderStatus

theorem UploadClient.apart_of_status {c : UploadClient σ} (h : c.runner.KeepsApart) {port : String}
    {s s' : σ} {result : CommandResult} (hrun : c.status port s = (.ok result, s'))
    (success : result.success = true) : BootloaderStatus.Apart result := by
  refine h _ s result s' ?_ hrun success
  rw [UploadClient.invocation, List.getLast?_append]
  rfl

/-! ## Scenarios

The result of a step of the utility is thrown away, except that of a status, where
the diagnostics stand apart. -/

namespace Bench

variable {b : Bench σ}

/-- What follows a run that has to succeed may go on without the diagnostics, if it
does not look at them. -/
theorem require_silenced_bind {step port : String} {args : List String}
    {f : CommandResult → Action σ α}
    (unread : ∀ s result s', b.upload.run port args s = (.ok result, s') →
      result.success = true → f result.silenced = f result) :
    (require step (b.silenced.upload.run port args) >>= f)
      = require step (b.upload.run port args) >>= f := by
  funext s
  have run : b.silenced.upload.run port args s
      = match b.upload.run port args s with
        | (.ok result, s') => (.ok result.silenced, s')
        | (.error e, s') => (.error e, s') := rfl
  rw [require, require, bind_assoc, bind_assoc, Action.bind_apply, Action.bind_apply, run]
  rcases hrun : b.upload.run port args s with ⟨e | result, s'⟩
  · rfl
  · dsimp only
    cases success : result.success with
    | false => rw [CommandResult.silenced_of_failure success]
    | true =>
        have done : result.checked step = .ok result := if_pos success
        have done' : result.silenced.checked step = .ok result.silenced := by
          rw [CommandResult.silenced_of_success success]
          exact if_pos success
        rw [done, done']
        exact congrFun (unread s result s' hrun success) s'

theorem discard_require_silenced (step port : String) (args : List String) :
    (discard (require step (b.silenced.upload.run port args)) : Action σ Unit)
      = discard (require step (b.upload.run port args)) := by
  rw [Action.discard_eq_bind, Action.discard_eq_bind]
  exact require_silenced_bind fun _ _ _ _ _ => rfl

variable (apart : b.upload.runner.KeepsApart)
include apart

theorem queryStatus_silenced (port : String) : b.silenced.queryStatus port = b.queryStatus port := by
  refine require_silenced_bind fun s result s' hrun success => ?_
  rw [BootloaderStatus.parse_silenced fun _ => UploadClient.apart_of_status apart hrun success]

theorem confirmUpdateMode_silenced : b.silenced.confirmUpdateMode = b.confirmUpdateMode := by
  rw [confirmUpdateMode, confirmUpdateMode]
  simp only [queryStatus_silenced apart]
  rfl

theorem returnToBootloader_silenced (port : String) :
    b.silenced.returnToBootloader port = b.returnToBootloader port := by
  rw [returnToBootloader, returnToBootloader, confirmUpdateMode_silenced apart]
  rfl

theorem wipeAndConfirm_silenced : b.silenced.wipeAndConfirm = b.wipeAndConfirm := by
  rw [wipeAndConfirm, wipeAndConfirm, confirmUpdateMode_silenced apart]
  simp only [UploadClient.wipe, UploadClient.reboot, discard_require_silenced]
  rfl

end Bench

/-! ## Answers

The answer for a status reads the same result again. -/

namespace Answer

theorem statusOf_silenced {result : CommandResult}
    (apart : result.success = true → BootloaderStatus.Apart result) (port : String) :
    statusOf port result.silenced = statusOf port result := by
  cases success : result.success with
  | false => rw [CommandResult.silenced_of_failure success]
  | true =>
      rw [statusOf, statusOf, BootloaderStatus.parse_silenced apart,
        CommandResult.silenced_of_success success]
      simp only [success, if_true]

theorem statusAt_silenced {client : UploadClient σ} (apart : client.runner.KeepsApart) (json : Bool)
    (port : String) : statusAt client.silenced json port = statusAt client json port := by
  funext world
  have run : client.silenced.status port world
      = match client.status port world with
        | (.ok result, world') => (.ok result.silenced, world')
        | (.error e, world') => (.error e, world') := rfl
  rw [statusAt, statusAt, run]
  rcases hrun : client.status port world with ⟨e | result, world'⟩
  · rfl
  · dsimp only
    rw [statusOf_silenced fun success => UploadClient.apart_of_status apart hrun success]

theorem bootloaderStatus_silenced {rig : Rig σ} (apart : rig.runner.KeepsApart) (s : Settings)
    (port upload : Option String) (json : Bool) :
    bootloaderStatus rig.silenced s port upload json = bootloaderStatus rig s port upload json := by
  have client : s.uploadClient rig.silenced.runner upload
      = (s.uploadClient rig.runner upload).map UploadClient.silenced := by
    rw [Settings.uploadClient, Settings.uploadClient]
    cases (s.uploadWords upload).isEmpty <;> rfl
  have runner : ∀ c, s.uploadClient rig.runner upload = .ok c → c.runner = rig.runner := by
    intro c h
    rw [Settings.uploadClient] at h
    split at h
    · cases h
    · cases h
      rfl
  rw [bootloaderStatus, bootloaderStatus, client]
  cases h : s.uploadClient rig.runner upload with
  | error cause => rfl
  | ok c =>
      have same : ∀ port, statusAt c.silenced json port = statusAt c json port :=
        statusAt_silenced (by rw [runner c h]; exact apart) json
      cases port with
      | some port => exact same port
      | none =>
          simp only [Except.map, given, same]
          rfl

end Answer

/-! ## Output and diagnostics

A text in two parts is read as its lines, of which the parts share one. -/

namespace BootloaderStatus

/-- Diagnostics that name no field matter only for what their first line makes of the
last line of the output.  Where they stand apart from it they are not read, so the
scenarios that end with a status, and the answer that shows one, come out as they do
without diagnostics. -/
theorem diagnostics_unread (r : CommandResult) (b : Bench σ) (rig : Rig σ) :
    (∀ front rest last first, Typeset r.stdout (front ++ [last]) →
      Typeset r.stderr (first :: rest) → (∀ line ∈ first :: rest, Foreign line) →
        ReadTogether r front last first) ∧
    (Apart r → parse r.combined = parse r.stdout) ∧
    (b.upload.runner.KeepsApart →
      (∀ port, b.silenced.queryStatus port = b.queryStatus port ∧
        b.silenced.returnToBootloader port = b.returnToBootloader port) ∧
      b.silenced.wipeAndConfirm = b.wipeAndConfirm) ∧
    (rig.runner.KeepsApart → ∀ settings port upload json,
      Answer.bootloaderStatus rig.silenced settings port upload json
        = Answer.bootloaderStatus rig settings port upload json) := by
  refine ⟨fun front rest last first output diagnostics chatter => ?_, parse_combined,
    fun apart => ⟨fun port => ?_, Bench.wipeAndConfirm_silenced apart⟩,
    fun apart => Answer.bootloaderStatus_silenced apart⟩
  · exact readTogether output diagnostics chatter
  · exact ⟨Bench.queryStatus_silenced apart port, Bench.returnToBootloader_silenced apart port⟩

/-- The number of warnings makes another bank of one that does not end its line.  With
a line feed between them, a utility that warns is as good as one that does not. -/
theorem diagnostics_unread_of_warnings :
    let unended : CommandResult := ⟨true, "State: UpdateMode\nActive bank: 1", "2 warnings\n"⟩
    let ended : CommandResult := ⟨true, "State: UpdateMode\nActive bank: 1\n", "2 warnings\n"⟩
    let status (bank : UInt8) : BootloaderStatus :=
      ⟨none, some bank, none, none, some "UpdateMode"⟩
    let port : Port Unit :=
      { name := "/dev/ttyACM1"
        waiting := fun w => (.ok 0, w)
        read := fun _ w => (.ok [], w)
        write := fun bytes w => (.ok bytes.length, w)
        flush := fun w => (.ok (), w) }
    let runner : Runner Unit := ⟨fun _ w => (.ok ended, w)⟩
    let opener : Opener Unit := ⟨fun _ w => (.ok port, w)⟩
    let rig := Rig.single runner opener "/dev/ttyACM0" Profile.rp2040.bootloaderIdentity
    let settings := Settings.resolve {} {}
    let b : Bench Unit := ⟨rig.orchestrator settings, ⟨runner, ["crispy-upload"], none, 0⟩, opener⟩
    ((parse unended.stdout = .ok (status 1) ∧ parse unended.combined = .ok (status 12)) ∧
      Apart ended ∧ parse ended.combined = .ok (status 1)) ∧
    (runner.KeepsApart ∧
      b.silenced.queryStatus "/dev/ttyACM0" () = (.ok (status 1), ()) ∧
      b.silenced.returnToBootloader "/dev/ttyACM1" () = (.ok (status 1), ()) ∧
      b.silenced.wipeAndConfirm () = (.ok (status 1), ())) ∧
    Answer.bootloaderStatus rig.silenced settings none none true ()
      = (.ok (.ofJson (Answer.statusJson "/dev/ttyACM0" (status 1))), ()) := by
  intro unended ended status port runner opener rig settings b
  obtain ⟨together, -⟩ := diagnostics_unread unended b rig
  obtain ⟨-, unread, scenarios, answers⟩ := diagnostics_unread ended b rig
  have foreign : ∀ line ∈ ["2 warnings".toList, []], Foreign line := by
    intro line hline
    refine entry?_eq_none_iff.mp ?_
    obtain rfl | hline := List.mem_cons.mp hline
    · decide
    · rw [List.mem_singleton.mp hline]
      rfl
  have apart : Apart ended := ⟨.inl (by decide), _, ⟨by decide, by decide⟩, foreign⟩
  have joined := together ["State: UpdateMode".toList] [[]] "Active bank: 1".toList
    "2 warnings".toList ⟨by decide, by decide⟩ ⟨by decide, by decide⟩ foreign
  obtain ⟨alone, further⟩ :=
    @joined.unended "Active bank".toList " 1".toList .activeBank rfl (by decide)
  have output : parse ended.stdout = .ok (status 1) := by
    rw [parse, show ofText? ended.stdout = some (status 1) by decide]
  have parsed : parse ended.combined = .ok (status 1) := by
    rw [unread apart, output]
  have keepsApart : runner.KeepsApart := by
    rintro i w result w' asked ⟨⟩ success
    exact apart
  obtain ⟨told, wiped⟩ := scenarios keepsApart
  have found : b.bootloaderPort () = (.ok "/dev/ttyACM0", ()) := Rig.find_single ..
  have queried : b.queryStatus "/dev/ttyACM0" () = (.ok (status 1), ()) := by
    refine Action.bind_eq_ok_iff.mpr ⟨ended, (), rfl, ?_⟩
    rw [parsed]
    rfl
  have confirmed : b.confirmUpdateMode () = (.ok (status 1), ()) := by
    refine Action.bind_eq_ok_iff.mpr ⟨_, (), found, ?_⟩
    exact Action.bind_eq_ok_iff.mpr ⟨status 1, (), queried, rfl⟩
  have returned : b.returnToBootloader "/dev/ttyACM1" () = (.ok (status 1), ()) := by
    refine Action.bind_eq_ok_iff.mpr ⟨(), (), ?_, confirmed⟩
    refine Action.bind_eq_ok_iff.mpr ⟨port, (), rfl, ?_⟩
    change Session.anew (Session.onWorld
      ((⟨port, rig.clock⟩ : Session Unit).writeLine Bench.bootloadCommand)) () = _
    rw [Session.anew_onWorld]
    refine Action.bind_eq_ok_iff.mpr ⟨(), (), Session.writeAll_of_whole (by decide) rfl, ?_⟩
    exact Action.bind_eq_ok_iff.mpr
      ⟨(), (), Session.writeAll_of_whole (List.cons_ne_nil _ _) rfl, rfl⟩
  have cleared : b.wipeAndConfirm () = (.ok (status 1), ()) := by
    rw [Bench.wipeAndConfirm, Action.bind_apply, found]
    exact confirmed
  refine ⟨⟨⟨alone, further⟩, apart, parsed⟩, ⟨keepsApart, ?_, ?_, ?_⟩, ?_⟩
  · rw [(told _).1, queried]
  · rw [(told _).2, returned]
  · rw [wiped, cleared]
  · rw [answers keepsApart]
    have stated : Answer.statusOf "/dev/ttyACM0" ended = .ok (status 1) := by
      rw [Answer.statusOf, parsed]
      rfl
    have located : (rig.orchestrator settings).waitForBootloader settings.timings.portTimeout ()
        = (.ok "/dev/ttyACM0", ()) := Rig.find_single ..
    have client : settings.uploadClient rig.runner none
        = .ok ⟨runner, UploadClient.defaultCommandLine, none, settings.timings.uploadTimeout⟩ := rfl
    have shown : Answer.statusAt ⟨runner, UploadClient.defaultCommandLine, none,
          settings.timings.uploadTimeout⟩ true "/dev/ttyACM0" ()
        = ((Answer.statusOf "/dev/ttyACM0" ended).map fun s =>
            .ofJson (Answer.statusJson "/dev/ttyACM0" s), ()) := rfl
    rw [Answer.bootloaderStatus, client]
    simp only [Answer.given, located]
    rw [shown, stated]
    rfl

/-- A warning behind a state that does not end its line hides the update mode. -/
theorem diagnostics_hide_updateMode :
    let r : CommandResult := ⟨true, "State: UpdateMode", "warning: unused import\n"⟩
    let status (state : String) : BootloaderStatus := ⟨none, none, none, none, some state⟩
    Chatter r.stderr ∧
      (parse r.stdout = .ok (status "UpdateMode") ∧ (status "UpdateMode").isUpdateMode = true) ∧
      parse r.combined = .ok (status "UpdateModewarning: unused import") ∧
        (status "UpdateModewarning: unused import").isUpdateMode = false ∧
      parse r.combined ≠ parse r.stdout := by
  intro r status
  have alone : parse r.stdout = .ok (status "UpdateMode") := by
    rw [parse, show ofText? r.stdout = some (status "UpdateMode") by decide]
  have together : parse r.combined = .ok (status "UpdateModewarning: unused import") := by
    rw [parse, show ofText? r.combined = some (status "UpdateModewarning: unused import") by decide]
  refine ⟨.of_entries (by decide), ⟨alone, by decide⟩, together, by decide, ?_⟩
  rw [alone, together]
  decide

end BootloaderStatus

end BoardRig
