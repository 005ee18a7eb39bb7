/-
# `BoardRig.Proofs.Bench.Scenario` — scenarios end at the first step that fails

A scenario is a sequence of steps over the probe, the upload utility, the USB
ports and the serial port of firmware, and each step depends on what the one
before it yielded.  Its plan says so (`UploadPlan`, `BootPlan`, `ReturnPlan`,
`WipePlan`, `StatusPlan`), and every run of it keeps to its plan.

Two things follow from the plans alone.  A failure that the utility or a port
reports is the outcome, and nothing is done after it (`EndsAtFault`).  And
where a device is rebooted (`RebootPlan`), this comes after the step that is to
take effect with it, at the same port, and before any talk with firmware.

A plan leaves no room for giving up or hanging at will: a lookup gives up only
when its time is up, and goes on for ever only if its passes do (`Patient`).
-/
import BoardRig.Proofs.Conduct.Fault
import BoardRig.Proofs.Recovery.UpdateMode
import BoardRig.Proofs.Serial.Talk

namespace BoardRig.Bench

variable {σ α : Type} (b : Bench σ)

/-! ## Steps -/

/-- A run of the upload utility that has to succeed. -/
inductive UtilityStep (port command : String) (args : List String) :
    List (Event σ) → Except Error CommandResult → Prop where
  | unrun {e : Error} :
      UtilityStep port command args [.utility b.upload port (command :: args) (.error e)] (.error e)
  | refused {result : CommandResult} (failure : result.success = false) :
      UtilityStep port command args [.utility b.upload port (command :: args) (.ok result)]
        (.error (.commandFailed command result.combined))
  | done {result : CommandResult} (success : result.success = true) :
      UtilityStep port command args [.utility b.upload port (command :: args) (.ok result)]
        (.ok result)

abbrev Lookup (identity : UsbIdentity) : Conduct σ (Except Error String) :=
  Search b.orchestrator.usb.clock b.orchestrator.usb.interval b.orchestrator.timings.portTimeout
    (UsbLocator.Pass b.orchestrator.usb.source identity)
    (UsbLocator.notFound identity b.orchestrator.timings.portTimeout)

abbrev BootloaderLookup : Conduct σ (Except Error String) :=
  b.Lookup b.orchestrator.profile.bootloaderIdentity

/-- A port is opened, and then talked to. -/
def Conversation (port : String) (Talk : Session σ → Conduct σ (Except Error α)) :
    Conduct σ (Except Error α) :=
  Conduct.andThen (.one (.connect b.opener { port })) fun p => Talk ⟨p, b.orchestrator.clock⟩

/-! ## Plans

A scenario in the words of its plan: the steps in their order, each with the values
that the ones before it yielded. -/

/-- The update mode is forced, the bootloader found, and the image sent to it. -/
def UploadPlan (firmware : String) (bank : UInt8) (version : UInt32) :
    Conduct σ (Except Error CommandResult) :=
  Conduct.andThen b.orchestrator.Entry fun _ =>
    Conduct.andThen b.BootloaderLookup fun port =>
      b.UtilityStep port "upload"
        [firmware, "--bank", toString bank.toNat, "--version", toString version.toNat]

/-- The status of the bootloader at a port is asked for and read. -/
def StatusPlan (port : String) : Conduct σ (Except Error BootloaderStatus) :=
  Conduct.andThen (b.UtilityStep port "status" []) fun result =>
    Conduct.yields (BootloaderStatus.parse result.combined)

/-- The bootloader is found, and asked whether it is in the update mode. -/
def ConfirmPlan : Conduct σ (Except Error BootloaderStatus) :=
  Conduct.andThen b.BootloaderLookup fun port =>
    Conduct.andThen (b.StatusPlan port) fun status => Conduct.yields (requireUpdateMode status)

/-- The bootloader is found and told something, and rebooted. Then comes what
it was told for. -/
def RebootPlan (command : String) (args : List String) (Rest : Conduct σ (Except Error α)) :
    Conduct σ (Except Error α) :=
  Conduct.andThen b.BootloaderLookup fun port =>
    Conduct.andThen (b.UtilityStep port command args) fun _ =>
      Conduct.andThen (b.UtilityStep port "reboot" []) fun _ =>
        Conduct.andThen (.pauses b.orchestrator.clock b.orchestrator.timings.rebootSettle) fun _ =>
          Rest

/-- Firmware is found, asked for its status over its port, and believed only if
it runs from the bank. -/
def FirmwarePlan (bank : UInt8) (product : UInt16) : Conduct σ (Except Error String) :=
  Conduct.andThen (b.Lookup (UsbIdentity.ofIds b.orchestrator.profile.vendor product)) fun port =>
    Conduct.andThen (b.Conversation port fun session =>
        session.Commands statusCommand b.orchestrator.timings.serialSettle) fun reply =>
      Conduct.yields (confirmBank bank port reply)

/-- A bank is chosen, and firmware has to come up from it. -/
def BootPlan (bank : UInt8) (product : UInt16) : Conduct σ (Except Error String) :=
  b.RebootPlan "set-bank" [toString bank.toNat] (b.FirmwarePlan bank product)

/-- Firmware is told to go, and the bootloader has to come up. -/
def ReturnPlan (port : String) : Conduct σ (Except Error BootloaderStatus) :=
  Conduct.andThen (b.Conversation port fun session =>
      Session.Sends session.port bootloadCommand) fun _ =>
    Conduct.andThen (.pauses b.orchestrator.clock b.orchestrator.timings.serialSettle) fun _ =>
      b.ConfirmPlan

/-- Everything is cleared, and the bootloader has to come up. -/
def WipePlan : Conduct σ (Except Error BootloaderStatus) :=
  b.RebootPlan "wipe" [] b.ConfirmPlan

/-! ## Runs

The plans follow the programs, so each rule of `Shows` is used where the program
has the corresponding construct. -/

theorem shows_require (port command : String) (args : List String) :
    Shows (require command (b.upload.run port (command :: args)))
      (b.UtilityStep port command args) := by
  intro s
  rw [require, Action.bind_apply]
  rcases hrun : b.upload.run port (command :: args) s with ⟨e | result, s'⟩
  · exact ⟨[.utility b.upload port (command :: args) (.error e)], .single hrun, .unrun⟩
  · have called : Leads s [.utility b.upload port (command :: args) (.ok result)] s' :=
      .single hrun
    dsimp only [CommandResult.checked]
    cases success : result.success with
    | true => exact ⟨_, called, .done success⟩
    | false => exact ⟨_, called, .refused success⟩

theorem shows_bootloaderPort : Shows b.bootloaderPort b.BootloaderLookup :=
  b.orchestrator.usb.shows_find _ _

theorem shows_withSession (port : String) {talk : Session σ → Action (Line σ) α}
    {Talk : Session σ → Conduct σ (Except Error α)}
    (h : ∀ session, Shows (Session.anew (talk session)) (Talk session)) :
    Shows (b.withSession port talk) (b.Conversation port Talk) :=
  (Shows.one (.connect b.opener { port }) fun _ => rfl).bind fun p =>
    h ⟨p, b.orchestrator.clock⟩

theorem shows_uploadToBank (firmware : String) (bank : UInt8) (version : UInt32) :
    Shows (b.uploadToBank firmware bank version) (b.UploadPlan firmware bank version) :=
  .bind_discard b.orchestrator.shows_enterUpdateMode <|
    b.shows_bootloaderPort.bind fun port => b.shows_require port "upload" _

theorem shows_queryStatus (port : String) : Shows (b.queryStatus port) (b.StatusPlan port) :=
  (b.shows_require port "status" []).bind fun _ => .ofExcept _

theorem shows_confirmUpdateMode : Shows b.confirmUpdateMode b.ConfirmPlan :=
  b.shows_bootloaderPort.bind fun port => (b.shows_queryStatus port).bind fun _ => .ofExcept _

theorem shows_bootBank (bank : UInt8) (product : UInt16) :
    Shows (b.bootBank bank product) (b.BootPlan bank product) :=
  b.shows_bootloaderPort.bind fun port =>
    .bind_discard (b.shows_require port "set-bank" _) <|
      .bind_discard (b.shows_require port "reboot" []) <|
        (Shows.pause b.orchestrator.clock _).bind fun _ =>
          (b.orchestrator.usb.shows_find _ _).bind fun firmware =>
            (b.shows_withSession firmware fun session => session.shows_sendCommand _ _).bind
              fun _ => .ofExcept _

theorem shows_returnToBootloader (port : String) :
    Shows (b.returnToBootloader port) (b.ReturnPlan port) :=
  (b.shows_withSession port fun session =>
      session.shows_onWorld_writeLine bootloadCommand).bind fun _ =>
    (Shows.pause b.orchestrator.clock _).bind fun _ => b.shows_confirmUpdateMode

theorem shows_wipeAndConfirm : Shows b.wipeAndConfirm b.WipePlan :=
  b.shows_bootloaderPort.bind fun port =>
    .bind_discard (b.shows_require port "wipe" []) <|
      .bind_discard (b.shows_require port "reboot" []) <|
        (Shows.pause b.orchestrator.clock _).bind fun _ => b.shows_confirmUpdateMode

/-! ## Calls -/

theorem within_lookup (identity : UsbIdentity) :
    (b.Lookup identity).Within fun e => e.channel ≠ .utility ∧ e.channel ≠ .serial :=
  .search (fun _ _ pass e he => by simp [UsbLocator.Pass.channel pass e he])
    (fun _ => by simp [Event.channel]) fun _ => by simp [Event.channel]

theorem within_utilityStep (port command : String) (args : List String) :
    Conduct.Within (fun e => ∃ answer, e = .utility b.upload port (command :: args) answer)
      (b.UtilityStep port command args) := by
  intro es r h
  cases h <;> exact List.forall_mem_singleton.mpr ⟨_, rfl⟩

theorem within_conversation {port : String} {Talk : Session σ → Conduct σ (Except Error α)}
    (h : ∀ session, (Talk session).Within fun e => e.channel = .serial ∨ e.channel = .clock) :
    (b.Conversation port Talk).Within fun e => e.channel = .serial ∨ e.channel = .clock :=
  .andThen (.one fun _ => .inl rfl) fun _ => h _

/-! ## Failures

Strictness of a plan is strictness of its steps. -/

theorem strict_entry : Conduct.Strict b.orchestrator.Entry :=
  .of_within fun es r h e he => by
    obtain probe | scratch | clock := Orchestrator.Entry.channel h e he <;> simp [*]

theorem strict_lookup (identity : UsbIdentity) : (b.Lookup identity).Strict :=
  .of_within (b.within_lookup identity)

/-- What the utility has against a command is what the step fails with. -/
theorem strict_utilityStep (port command : String) (args : List String) :
    Conduct.Strict (b.UtilityStep port command args) := by
  intro es r h
  cases h with
  | unrun => exact .fault rfl
  | refused failure => exact .fault (if_neg (Bool.eq_false_iff.mp failure))
  | done success => exact .quiet (if_pos success)

theorem strict_conversation {port : String} {Talk : Session σ → Conduct σ (Except Error α)}
    (h : ∀ session, (Talk session).Strict) : (b.Conversation port Talk).Strict := by
  refine .andThen (.one fun answer fault hfault => ?_) fun _ => h _
  cases answer with
  | ok p => cases hfault
  | error e =>
      cases hfault
      rfl

theorem strict_uploadPlan (firmware : String) (bank : UInt8) (version : UInt32) :
    (b.UploadPlan firmware bank version).Strict :=
  .andThen b.strict_entry fun _ => .andThen (b.strict_lookup _) fun port =>
    b.strict_utilityStep port _ _

theorem strict_statusPlan (port : String) : (b.StatusPlan port).Strict :=
  .andThen (b.strict_utilityStep port _ _) fun _ => .yields _

theorem strict_confirmPlan : b.ConfirmPlan.Strict :=
  .andThen (b.strict_lookup _) fun port => .andThen (b.strict_statusPlan port) fun _ => .yields _

theorem strict_rebootPlan {Rest : Conduct σ (Except Error α)} (command : String)
    (args : List String) (h : Rest.Strict) : (b.RebootPlan command args Rest).Strict :=
  .andThen (b.strict_lookup _) fun port => .andThen (b.strict_utilityStep port _ _) fun _ =>
    .andThen (b.strict_utilityStep port _ _) fun _ => .andThen (.pauses _ _) fun _ => h

theorem strict_firmwarePlan (bank : UInt8) (product : UInt16) :
    (b.FirmwarePlan bank product).Strict :=
  .andThen (b.strict_lookup _) fun _ =>
    .andThen (b.strict_conversation fun session => session.strict_commands _ _) fun _ => .yields _

theorem strict_returnPlan (port : String) : (b.ReturnPlan port).Strict :=
  .andThen (b.strict_conversation fun session => Session.strict_sends session.port _) fun _ =>
    .andThen (.pauses _ _) fun _ => b.strict_confirmPlan

/-! ## Order

A reboot that is sent is guarded by the step that has to come before it, and what
firmware is asked is guarded by the reboot. -/

def Done (port : String) (args : List String) (e : Event σ) : Prop :=
  ∃ result, e = .utility b.upload port args (.ok result) ∧ result.success = true

/-- The utility is asked to reboot what is at a port, whatever comes of it. -/
def RebootSent (port : String) (e : Event σ) : Prop :=
  ∃ client answer, e = .utility client port ["reboot"] answer

variable {b} in
theorem UtilityStep.exists_done {port command : String} {args : List String} {es : List (Event σ)}
    {result : CommandResult} (h : b.UtilityStep port command args es (.ok result)) :
    ∃ g ∈ es, b.Done port (command :: args) g := by
  cases h with
  | done success => exact ⟨_, List.mem_singleton_self _, result, rfl, success⟩

theorem not_rebootSent {port : String} {e : Event σ} (h : e.channel ≠ .utility) :
    ¬ RebootSent port e := by
  rintro ⟨client, answer, rfl⟩
  exact h rfl

theorem lookup_sends_no_reboot (identity : UsbIdentity) (port : String) :
    (b.Lookup identity).Within fun e => ¬ RebootSent port e :=
  (b.within_lookup identity).mono fun _ h => not_rebootSent h.1

theorem utilityStep_sends_no_reboot {target port command : String} (args : List String)
    (other : command ≠ "reboot" ∨ target ≠ port) :
    Conduct.Within (fun e => ¬ RebootSent port e) (b.UtilityStep target command args) := by
  refine (b.within_utilityStep target command args).mono ?_
  rintro e ⟨answer, rfl⟩ ⟨client, answer', h⟩
  cases h
  exact other.elim (absurd rfl) (absurd rfl)

theorem firmwarePlan_sends_no_reboot (bank : UInt8) (product : UInt16) (port : String) :
    (b.FirmwarePlan bank product).Within fun e => ¬ RebootSent port e := by
  refine .andThen (b.lookup_sends_no_reboot _ port) fun firmware => .andThen ?_ fun _ => .yields _
  refine (b.within_conversation fun session => session.within_commands _ _).mono fun e h => ?_
  exact not_rebootSent (by obtain serial | clock := h <;> simp [*])

theorem confirmPlan_sends_no_reboot (port : String) :
    b.ConfirmPlan.Within fun e => ¬ RebootSent port e :=
  .andThen (b.lookup_sends_no_reboot _ port) fun _ =>
    .andThen (.andThen (b.utilityStep_sends_no_reboot [] (.inl (by decide))) fun _ => .yields _)
      fun _ => .yields _

theorem rebootPlan_guards_reboot {command : String} {args : List String}
    {Rest : Conduct σ (Except Error α)} (port : String) (other : command ≠ "reboot")
    (rest : Rest.Within fun e => ¬ RebootSent port e) :
    (b.RebootPlan command args Rest).Guards (b.Done port (command :: args)) (RebootSent port) := by
  refine .andThen (.of_within (b.lookup_sends_no_reboot _ port)) fun target => ?_
  have told : Conduct.Within (fun e => ¬ RebootSent port e) (b.UtilityStep target command args) :=
    b.utilityStep_sends_no_reboot args (.inl other)
  by_cases same : target = port
  · subst same
    exact .andThen_of_guard (.of_within told) fun es result h => UtilityStep.exists_done h
  · exact .of_within (.andThen told fun _ =>
      .andThen (b.utilityStep_sends_no_reboot [] (.inr same)) fun _ =>
        .andThen (.pauses (not_rebootSent (by simp [Event.channel]))) fun _ => rest)

theorem rebootPlan_guards_talk (command : String) (args : List String)
    (Rest : Conduct σ (Except Error α)) :
    (b.RebootPlan command args Rest).Guards (fun e => ∃ port, b.Done port ["reboot"] e)
      (fun e => e.channel = .serial) := by
  have untalkative : ∀ port command args,
      Conduct.Within (fun e => e.channel ≠ .serial) (b.UtilityStep port command args) := by
    intro port command args
    refine (b.within_utilityStep port command args).mono ?_
    rintro e ⟨answer, rfl⟩
    simp [Event.channel]
  have lookup : b.BootloaderLookup.Within fun e => e.channel ≠ .serial :=
    (b.within_lookup _).mono fun _ h => h.2
  refine .andThen (.of_within lookup) fun port =>
    .andThen (.of_within (untalkative port _ _)) fun _ =>
      .andThen_of_guard (.of_within (untalkative port _ _)) fun es result h => ?_
  obtain ⟨g, hg, done⟩ := UtilityStep.exists_done h
  exact ⟨g, hg, port, done⟩

/-- Every run of a scenario keeps to its plan, up to the first step that fails,
and what the upload utility or a port fails with is what the scenario fails
with. A reboot is sent only to a port where what it is for was told, and
firmware is talked to only after a reboot. A lookup gives up only when its time
is up, and ends where the clock ticks. -/
theorem scenarios_fail_stop (b : Bench σ) :
    (∀ firmware bank version, Shows (b.uploadToBank firmware bank version) fun es r =>
      b.UploadPlan firmware bank version es r ∧ EndsAtFault es r) ∧
    (∀ bank product, Shows (b.bootBank bank product) fun es r =>
      b.BootPlan bank product es r ∧ EndsAtFault es r ∧
        (∀ port, Guarded (b.Done port ["set-bank", toString bank.toNat]) (RebootSent port) es) ∧
        Guarded (fun e => ∃ port, b.Done port ["reboot"] e) (fun e => e.channel = .serial) es) ∧
    (∀ port, Shows (b.returnToBootloader port) fun es r =>
      b.ReturnPlan port es r ∧ EndsAtFault es r) ∧
    (Shows b.wipeAndConfirm fun es r =>
      b.WipePlan es r ∧ EndsAtFault es r ∧
        ∀ port, Guarded (b.Done port ["wipe"]) (RebootSent port) es) ∧
    (∀ port, Shows (b.queryStatus port) fun es r => b.StatusPlan port es r ∧ EndsAtFault es r) ∧
    ∀ identity, Patient b.orchestrator.usb.clock b.orchestrator.usb.interval
      b.orchestrator.timings.portTimeout (UsbLocator.Pass b.orchestrator.usb.source identity)
      (b.orchestrator.usb.find identity b.orchestrator.timings.portTimeout) := by
  refine ⟨fun firmware bank version => (b.shows_uploadToBank firmware bank version).mono
      fun es r h => ⟨h, b.strict_uploadPlan _ _ _ es r h⟩,
    fun bank product => (b.shows_bootBank bank product).mono fun es r h => ?_,
    fun port => (b.shows_returnToBootloader port).mono
      fun es r h => ⟨h, b.strict_returnPlan _ es r h⟩,
    b.shows_wipeAndConfirm.mono fun es r h => ?_,
    fun port => (b.shows_queryStatus port).mono
      fun es r h => ⟨h, b.strict_statusPlan _ es r h⟩,
    fun identity => b.orchestrator.usb.patient_find identity _⟩
  · refine ⟨h, b.strict_rebootPlan _ _ (b.strict_firmwarePlan bank product) es r h, fun port => ?_,
      b.rebootPlan_guards_talk _ _ _ es r h⟩
    exact b.rebootPlan_guards_reboot port (by decide)
      (b.firmwarePlan_sends_no_reboot bank product port) es r h
  · refine ⟨h, b.strict_rebootPlan _ _ b.strict_confirmPlan es r h, fun port => ?_⟩
    exact b.rebootPlan_guards_reboot port (by decide) (b.confirmPlan_sends_no_reboot port) es r h

/-- A bank is chosen, but the device cannot be rebooted: no firmware is looked
for, and none talked to. The clock ticks, so a lookup of firmware would end. -/
theorem scenarios_fail_stop_at_refused_reboot :
    let runner : Runner (List (List String)) :=
      ⟨fun i log => (.ok (if i.args.length = 3 then ⟨false, "rebooting", "lost"⟩ else .ok ""),
        log ++ [i.args])⟩
    let files : Files (List (List String)) :=
      { scratch := fun _ log => (.ok "/tmp/bytes", log)
        discard := fun _ log => ((), log)
        read := fun _ log => (.error .noSuchFile, log)
        openSource := fun _ log => (.error .noSuchFile, log)
        create := fun _ log => (.error .noSuchFile, log)
        contents := fun _ log => (.error .noSuchFile, log)
        append := fun _ _ log => (.error .noSuchFile, log)
        sync := fun _ log => (.error .noSuchFile, log) }
    let clock : Clock (List (List String)) :=
      ⟨List.length, fun d log => log ++ List.replicate d ["sleep"]⟩
    let source : StorageSource (List (List String)) :=
      { mountTable := fun log => (.ok "", log)
        blockDevices := fun log => (.ok [], log)
        mount := fun _ log => (.ok (), log) }
    let b : Bench (List (List String)) :=
      { orchestrator :=
          { profile := .rp2040, timings := {}, probe := ⟨runner, files, "rp2040", "probe-rs"⟩
            usb := ⟨⟨fun log => (["/dev/ttyACM0"], log),
              fun _ log => (.ok Profile.rp2040.bootloaderIdentity, log)⟩, clock, 500⟩
            storage := ⟨source, clock, 500⟩, files, clock }
        upload := { runner, commandLine := ["crispy-upload"] }
        opener := ⟨fun _ log => (.error (.io .permissionDenied), log ++ [["connect"]])⟩ }
    (Shows (b.bootBank 1 10) fun es r => b.BootPlan 1 10 es r ∧ EndsAtFault es r ∧
        (∀ port, Guarded (b.Done port ["set-bank", "1"]) (RebootSent port) es) ∧
        Guarded (fun e => ∃ port, b.Done port ["reboot"] e) (fun e => e.channel = .serial) es) ∧
      b.bootBank 1 10 [] = (.error (.commandFailed "reboot" "rebootinglost"),
        [["--port", "/dev/ttyACM0", "set-bank", "1"], ["--port", "/dev/ttyACM0", "reboot"]]) ∧
      Ticking clock 500 (UsbLocator.Pass b.orchestrator.usb.source (.ofIds 11914 10)) ∧
      (b.orchestrator.usb.find (.ofIds 11914 10) b.orchestrator.timings.portTimeout []).1
        ≠ .error .unending := by
  intro runner files clock source b
  obtain ⟨-, booted, -, -, -, patient⟩ := scenarios_fail_stop b
  have instant : UsbLocator.Instant b.orchestrator.usb.source clock :=
    ⟨fun _ => rfl, fun _ _ => rfl⟩
  have ticking : Ticking clock 500 (UsbLocator.Pass b.orchestrator.usb.source (.ofIds 11914 10)) :=
    { positive := by decide
      sleep := fun d log => by simp [clock]
      onward := fun es found s s' pass hleads => (hleads.keeps (instant.keeps_pass pass)).ge }
  refine ⟨booted 1 10, ?_, ticking, (patient _).ends ticking [] (by decide)⟩
  have port : b.bootloaderPort [] = (.ok "/dev/ttyACM0", []) :=
    b.orchestrator.usb.find_of_first rfl rfl
  rw [bootBank, Action.bind_apply, port]
  rfl

end BoardRig.Bench
