/-
# `BoardRig.Proofs.Recovery.Exactness` — every recovery fails for the reason it gives

Each operation has a plan of its calls, and step by step these go with its
outcome (`Conduct.Accounted`), so its error is exact.  Where something is
awaited, this comes after steps that look for nothing and before steps that
write files, and so the operation is as patient as its search (`Waits`).  An
operation that is all of this is `Faithful`, and every one of them is
(`errors_exact`).
-/
import BoardRig.Proofs.Recovery.Ending

namespace BoardRig

variable {σ α β : Type}

/-! ## The tool -/

section Tool

variable {p : Probe σ} {es : List (Event σ)} {result : CommandResult}

theorem Probe.Download.lastTool {address : UInt32} {data : Bytes}
    (h : Probe.Download p address data es result) : lastTool es = some result := by
  cases h with
  | unwritable => rfl
  | ran => rfl

theorem lastTool_of_probe (es after : List (Event σ)) (i : Invocation)
    (answer : Except Error CommandResult) (untooled : ∀ e ∈ after, e.toolResult? = none) :
    lastTool (es ++ .probe p i answer :: after) = some (Probe.resultOf answer) := by
  have run : (Event.probe p i answer).toolResult? = some (Probe.resultOf answer) := rfl
  have last : lastTool (.probe p i answer :: after) = some (Probe.resultOf answer) := by
    rw [lastTool, List.filterMap_cons_some run, List.filterMap_eq_nil_iff.mpr untooled]
    rfl
  rw [lastTool_append, last, Option.some_or]

end Tool

namespace Orchestrator

variable {Appears : Event σ → Prop} {o : Orchestrator σ} {es : List (Event σ)}

theorem Required.channel {step : String} {i : Invocation} :
    Conduct.Within (fun e => e.channel = .probe) (o.Required step (Probe.Run o.probe i)) := by
  rintro es r (⟨⟨⟩, _⟩ | ⟨⟨⟩, _⟩)
  · exact List.forall_mem_singleton.mpr rfl
  · exact List.forall_mem_singleton.mpr rfl

theorem Required.accounted {step : String} {i : Invocation} :
    Conduct.Accounted o.probe.program Appears (o.Required step (Probe.Run o.probe i)) := by
  intro es r h
  have calls : ∀ e ∈ es, e.channel = .probe ∨ e.channel = .scratch ∨ e.channel = .clock :=
    fun e he => .inl (Required.channel es r h e he)
  cases h with
  | succeeded run success =>
      cases run
      exact .well (clear_of_tool calls rfl success)
  | failed run failure =>
      cases run
      exact .of_failed_tool calls rfl failure step

/-- Where nothing but the tool is used, what is awaited makes no difference. -/
theorem Entry.accounted : Conduct.Accounted o.probe.program Appears o.Entry := by
  intro es r h
  have calls := h.channel
  cases h with
  | @entered es erase magic reset filled success =>
      have last := lastTool_of_probe (p := o.probe) (es ++ [.probe o.probe o.magicCommand magic])
        [.sleep o.clock o.timings.updateModeSettle] o.resetCommand reset
        (List.forall_mem_singleton.mpr rfl)
      rw [List.append_assoc] at last
      exact .well (clear_of_tool calls last success)
  | @refused es erase magic reset filled failure =>
      have last := lastTool_of_probe (p := o.probe) (es ++ [.probe o.probe o.magicCommand magic])
        [] o.resetCommand reset (by simp)
      rw [List.append_assoc] at last
      rw [resetError, ← Probe.combined_resultOf]
      exact .of_failed_tool calls last failure "reset"

theorem Forcing.accounted : Conduct.Accounted o.probe.program Appears o.Forcing := by
  intro es r h
  have calls : ∀ e ∈ es, e.channel = .probe ∨ e.channel = .scratch ∨ e.channel = .clock :=
    fun e he => (h.channel e he).imp_right .inl
  cases h with
  | unwritten filled failure => exact .of_failed_tool calls filled.lastTool failure _
  | @refused es result reset _ _ failure =>
      have last := lastTool_of_probe (p := o.probe) es [] o.resetCommand reset (by simp)
      rw [resetError, ← Probe.combined_resultOf]
      exact .of_failed_tool calls last failure "reset"
  | @forced es result reset _ _ success =>
      have last := lastTool_of_probe (p := o.probe) es [] o.resetCommand reset (by simp)
      exact .well (clear_of_tool calls last success)

theorem Entry.unlooked : Conduct.Within (fun e => ¬ e.Looks) o.Entry := by
  intro es r h e he
  obtain hcall | hcall | hcall := h.channel e he <;> simp [Event.Looks, hcall]

theorem Forcing.unlooked : Conduct.Within (fun e => ¬ e.Looks) o.Forcing := by
  intro es r h e he
  obtain hcall | hcall := h.channel e he <;> simp [Event.Looks, hcall]

theorem Required.unlooked {step : String} {i : Invocation} :
    Conduct.Within (fun e => ¬ e.Looks) (o.Required step (Probe.Run o.probe i)) :=
  Required.channel.mono fun e h => by simp [Event.Looks, h]

theorem Required.untouched {step : String} {i : Invocation} :
    Conduct.Within (fun e => e.channel ≠ .files) (o.Required step (Probe.Run o.probe i)) :=
  Required.channel.mono fun e h => by simp [h]

/-! ## Volumes and files -/

variable (o) in
def volume : Awaited σ :=
  .volume o.storage o.profile.volumeLabel o.timings.volumeTimeout

variable (o) in
def bootloader (timeout : Duration) : Awaited σ :=
  .port o.usb o.profile.bootloaderIdentity timeout

theorem MassStorage.accounted :
    Conduct.Accounted o.probe.program o.volume.Appears o.MassStorage := by
  intro es r h
  cases h with
  | stopped forcing => exact (Forcing.accounted _ _ forcing).of_error
  | @searched forced lookup _ forcing search =>
      have paused : Clear o.volume.Appears [.sleep o.clock o.timings.bootselEnumeration] :=
        clear_of_call (.inr rfl) rfl
      have rest : Ends o.probe.program o.volume.Appears
          ([.sleep o.clock o.timings.bootselEnumeration] ++ lookup) r :=
        .append paused (o.volume.accounted _ _ search)
          (.inl (List.forall_mem_singleton.mpr (o.volume.not_appears (by
            simp [Event.Looks, Event.channel]))))
      exact .append (Forcing.accounted _ _ forcing).clear rest
        (.inl fun e he => o.volume.not_appears (Forcing.unlooked _ _ forcing e he))

theorem Filling.accounted {file : Nat} {Content : Conduct σ (Except Error Bytes)}
    (accounted : Conduct.Accounted o.probe.program Appears Content) :
    Conduct.Accounted o.probe.program Appears (o.Filling file Content) := by
  intro es r h
  cases h with
  | unread content => exact (accounted _ _ content).of_error
  | @unwritten es bytes cause content =>
      exact .append (accounted _ _ content).clear (.of_fault rfl rfl)
        (.inr (by simp [Event.Looks, Event.channel]))
  | @unsynced es bytes cause content =>
      have written : Clear Appears [.append o.files file bytes (.ok ())] :=
        clear_of_call (.inl rfl) rfl
      have rest : Ends o.probe.program Appears
          ([.append o.files file bytes (.ok ())] ++ [.sync o.files file (.error cause)])
          (.error (.io cause) : Except Error Unit) :=
        .append written (.of_fault rfl rfl) (.inr (by simp [Event.Looks, Event.channel]))
      exact .append (accounted _ _ content).clear rest
        (.inr (by simp [Event.Looks, Event.channel]))
  | filled content =>
      refine .append (accounted _ _ content).clear (.well ?_)
        (.inr (by simp [Event.Looks, Event.channel]))
      exact clear_of_files (by simp [Event.channel]) (by simp [FilesWell, Event.fileFault?])

theorem Deployment.accounted {name : String} {Content : Conduct σ (Except Error Bytes)}
    (accounted : Conduct.Accounted o.probe.program o.volume.Appears Content)
    (reads : ∀ es r, Content es r → Reads es) :
    Conduct.Accounted o.probe.program o.volume.Appears (o.Deployment name Content) := by
  intro es r h
  have created : ∀ {root file}, Clear o.volume.Appears
      [.create o.files (Path.join root name) (.ok file)] := clear_of_call (.inl rfl) rfl
  -- Behind the search for the volume nothing is looked for any more.
  have unlooked : ∀ {es' file} {r' : Except Error Unit}, o.Filling file Content es' r' →
      ∀ e ∈ es', ¬ e.Looks := by
    rintro es' file r' filling e he (looks | looks) <;>
      · have hcall := (filling.tail reads).channel e he
        rw [looks] at hcall
        simp at hcall
  cases h with
  | stopped volume => exact (MassStorage.accounted _ _ volume).of_error
  | uncreated volume =>
      exact .append (MassStorage.accounted _ _ volume).clear (.of_fault rfl rfl)
        (.inr (by simp [Event.Looks, Event.channel]))
  | @failed es es' root file e volume filling =>
      have rest : Ends o.probe.program o.volume.Appears
          ([.create o.files (Path.join root name) (.ok file)] ++ es')
          (.error e : Except Error String) :=
        .append created (Filling.accounted accounted _ _ filling).of_error (.inr (unlooked filling))
      refine .append (MassStorage.accounted _ _ volume).clear rest (.inr ?_)
      exact List.forall_mem_cons.mpr ⟨by simp [Event.Looks, Event.channel], unlooked filling⟩
  | @deployed es es' root file volume filling =>
      have rest : Clear o.volume.Appears
          ([.create o.files (Path.join root name) (.ok file)] ++ es') :=
        created.append (Filling.accounted accounted _ _ filling).clear
      refine .append (MassStorage.accounted _ _ volume).clear (.well rest) (.inr ?_)
      exact List.forall_mem_cons.mpr ⟨by simp [Event.Looks, Event.channel], unlooked filling⟩

/-! ## Operations

An operation is faithful to a plan when its calls are those of the plan and its
error is the one that they decide on.  The plans say which commands the probe's
tool is given, in which order, and what is searched for behind them. -/

/-- The calls of every run are those of the plan and go with its error, and nothing
is given up before its time is up. -/
structure Faithful (aim : Aim σ) (Plan : Conduct σ (Except Error α)) (act : Action σ α) : Prop where
  shows : Shows act fun es r => Plan es r ∧ Exact aim es r
  waits : Waits aim.awaited act

theorem Faithful.of_accounted {aim : Aim σ} {act : Action σ α} {P : Conduct σ (Except Error α)}
    (shown : Shows act P) (accounted : Conduct.Accounted aim.program aim.Shown P)
    (proceeds : aim.refusal = none) (untouched : P.Within fun e => e.channel ≠ .files)
    (waits : Waits aim.awaited act) : Faithful aim P act where
  shows := shown.mono fun es r h =>
    ⟨h, .of_ends (accounted es r h) proceeds fun _ => untouched es r h⟩
  waits

variable (o)

/-- Using the probe, and awaiting nothing. -/
def toolAim : Aim σ := { program := o.probe.program }

/-- Using the probe, if at all, and awaiting something. -/
def aimAt (sought : Awaited σ) : Aim σ :=
  { program := o.probe.program, awaited := some sought }

/-- Writing a file to the volume of the mask ROM, unless it is refused. -/
def deployAim (refusal : Option Error) : Aim σ :=
  { program := o.probe.program, awaited := some o.volume, refusal, deploys := true }

/-- Why a path is refused, if it is: it has no name to deploy the file under. -/
def refusalOfPath (path : String) : Option Error :=
  if Path.fileName? path = none then some (Uf2.Fault.noFileName path).error else none

/-- Why some content is refused, if it is: there is nothing to deploy. -/
def refusalOfContent (content : List α) : Option Error :=
  if content = [] then some Uf2.Fault.noBlocks.error else none

/-- Why a state is refused, if it is: the probe cannot reach firmware. -/
def unreachable : Error :=
  .unsupported "firmware is booted through the upload utility, not the debug probe"

def reachAim : RecoveryTarget → Aim σ
  | .updateMode => o.aimAt (o.bootloader o.timings.portTimeout)
  | .massStorage => o.aimAt o.volume
  | .firmware => { program := o.probe.program, refusal := some unreachable }

/-- The calls that bring the device into a state and confirm it. -/
def ReachPlan : RecoveryTarget → Conduct σ (Except Error DeviceState)
  | .updateMode =>
    Conduct.andThen o.Entry fun _ =>
      Conduct.andThen (o.bootloader o.timings.portTimeout).Lookup fun _ =>
        Conduct.yields (.ok .updateMode)
  | .massStorage => Conduct.andThen o.MassStorage fun _ => Conduct.yields (.ok .massStorage)
  | .firmware => Conduct.yields (.error unreachable)

/-- The calls that write the bootloader into flash and reset into it. -/
def FlashPlan (elf : String) : Conduct σ (Except Error Unit) :=
  Conduct.andThen
    (o.Required "download" (Probe.Run o.probe (o.probe.subcommand "download" [elf]))) fun _ =>
      Conduct.discarded (o.Required "reset" (Probe.Run o.probe o.resetCommand))

/-- The call that erases the whole flash. -/
def ErasePlan : Conduct σ (Except Error Unit) :=
  Conduct.discarded (o.Required "erase" (Probe.Run o.probe (o.probe.subcommand "erase" [])))

/-- Every operation keeps to its plan and fails for the reason that it gives. -/
structure ErrorsExact : Prop where
  enterUpdateMode : Faithful o.toolAim o.Entry o.enterUpdateMode
  forceBootsel : Faithful o.toolAim o.Forcing o.forceBootsel
  enterMassStorage : Faithful (o.aimAt o.volume) o.MassStorage o.enterMassStorage
  deployFile : ∀ path,
    Faithful (o.deployAim (refusalOfPath path)) (o.FileDeployment path) (o.deployFile path)
  deployBlocks : ∀ name blocks,
    Faithful (o.deployAim (refusalOfContent blocks)) (o.BlockDeployment name blocks)
      (o.deployBlocks name blocks)
  deployImage : ∀ name image,
    Faithful (o.deployAim (refusalOfContent image.data))
      (o.BlockDeployment name ((Uf2.Encoder.ofFamily o.profile.family).encode image))
      (o.deployImage name image)
  waitForBootloader : ∀ timeout,
    Faithful (o.aimAt (o.bootloader timeout)) (o.bootloader timeout).Lookup
      (o.waitForBootloader timeout)
  waitForFirmware : ∀ product timeout,
    let firmware : Awaited σ := .port o.usb (.ofIds o.profile.vendor product) timeout
    Faithful (o.aimAt firmware) firmware.Lookup (o.waitForFirmware product timeout)
  reach : ∀ target, Faithful (o.reachAim target) (o.ReachPlan target) (o.reach target)
  flashBootloader : ∀ elf, Faithful o.toolAim (o.FlashPlan elf) (o.flashBootloader elf)
  eraseAll : Faithful o.toolAim o.ErasePlan o.eraseAll

variable {o}

/-! ### Calm steps -/

theorem Entry.untouched : Conduct.Within (fun e => e.channel ≠ .files) o.Entry :=
  fun _ _ h => not_files_of_tool h.channel

theorem Forcing.untouched : Conduct.Within (fun e => e.channel ≠ .files) o.Forcing :=
  fun _ _ h => not_files_of_tool fun e he => (h.channel e he).imp_right .inl

theorem MassStorage.untouched : Conduct.Within (fun e => e.channel ≠ .files) o.MassStorage :=
  fun _ _ h => h.no_files

variable (o) in
theorem calm_enterUpdateMode : Calm o.enterUpdateMode := by
  refine .of_shows o.shows_enterUpdateMode Entry.unlooked fun es e h => ?_
  cases h with
  | refused => exact id

variable (o) in
theorem calm_forceBootsel : Calm o.forceBootsel := by
  refine .of_shows o.shows_forceBootsel Forcing.unlooked fun es e h => ?_
  cases h with
  | unwritten => exact id
  | refused => exact id

variable (o) in
theorem calm_execute (step : String) (i : Invocation) :
    Calm (o.require step (o.probe.execute i)) := by
  refine .of_shows (o.shows_require step (o.probe.shows_execute i)) Required.unlooked
    fun es e h => ?_
  cases h with
  | failed => exact id

/-! ### Searches -/

variable (o) in
theorem faithful_find (sought : Awaited σ) :
    Faithful (o.aimAt sought) sought.Lookup sought.find :=
  .of_accounted sought.shows_find sought.accounted rfl sought.lookup_untouched sought.waits

variable (o) in
theorem waits_enterMassStorage : Waits (some o.volume) o.enterMassStorage :=
  .after o.calm_forceBootsel fun _ => .after (.pause _ _) fun _ => o.volume.waits

theorem accounted_entry {sought : Awaited σ} {Next : UpdateEntry → Conduct σ (Except Error α)}
    (accounted : ∀ entry, Conduct.Accounted o.probe.program sought.Appears (Next entry)) :
    Conduct.Accounted o.probe.program sought.Appears (Conduct.andThen o.Entry Next) :=
  .andThen Entry.accounted accounted
    (.inl (Entry.unlooked.mono fun _ => sought.not_appears))

theorem faithful_entry_find (o : Orchestrator σ) (sought : Awaited σ) :
    Faithful (o.aimAt sought) (Conduct.andThen o.Entry fun _ => sought.Lookup)
      (o.enterUpdateMode >>= fun _ => sought.find) :=
  .of_accounted (o.shows_enterUpdateMode.bind fun _ => sought.shows_find)
    (accounted_entry fun _ => sought.accounted) rfl
    (.andThen Entry.untouched fun _ => sought.lookup_untouched)
    (.after o.calm_enterUpdateMode fun _ => sought.waits)

/-! ### Files -/

theorem waits_deploy (name : String) {content : Action σ Bytes} (calm : Calm content) :
    Waits (some o.volume) (o.deploy name content) :=
  .before o.waits_enterMassStorage fun volume =>
    .bind (.file (Shows.one (.create o.files (Path.join volume name)) fun _ => rfl).io
        fun _ => rfl) fun file =>
      calm.bind fun bytes =>
        .bind (.file (Shows.one (.append o.files file bytes) fun _ => rfl).io fun _ => rfl)
          fun _ => .bind (.file (Shows.one (.sync o.files file) fun _ => rfl).io fun _ => rfl)
            fun _ => .bind (.pause _ _) fun _ => .pure _

theorem FileDeployment.exact {path : String} {r : Except Error String}
    (h : o.FileDeployment path es r) : Exact (o.deployAim (refusalOfPath path)) es r := by
  have accounted : ∀ {source}, Conduct.Accounted o.probe.program o.volume.Appears
      (Conduct.one (.contents o.files source)).io := by
    rintro source es r ⟨answer, rfl, rfl⟩
    cases answer with
    | error cause => exact .of_fault rfl rfl
    | ok bytes => exact .well (clear_of_call (.inl rfl) rfl)
  have proceeds : ∀ {name}, Path.fileName? path = some name → refusalOfPath path = none :=
    fun {name} named => if_neg (Option.ne_none_iff_exists'.mpr ⟨name, named⟩)
  cases h with
  | nameless nameless => exact .of_refused (if_pos nameless) id id
  | @unopened name cause named =>
      exact .of_ends (.of_fault rfl rfl) (proceeds named) (nomatch ·)
  | @opened name source es r named deployment =>
      have opened : Clear o.volume.Appears [.openSource o.files path (.ok source)] :=
        clear_of_call (.inl rfl) rfl
      have ends : Ends o.probe.program o.volume.Appears
          ([.openSource o.files path (.ok source)] ++ es) r := by
        refine .append opened (Deployment.accounted accounted ?_ _ _ deployment)
          (.inl (List.forall_mem_singleton.mpr fun appears => nomatch appears))
        rintro es r ⟨answer, rfl, -⟩ e he
        exact ⟨_, _, _, List.mem_singleton.mp he⟩
      exact .of_ends ends (proceeds named) (nomatch ·)

theorem BlockDeployment.exact {name : String} {blocks : List Uf2.Block} {r : Except Error String}
    (h : o.BlockDeployment name blocks es r) :
    Exact (o.deployAim (refusalOfContent blocks)) es r := by
  cases h with
  | nothing nothing => exact .of_refused (if_pos nothing) id id
  | blocks some deployment =>
      refine .of_ends (Deployment.accounted (.yields _) ?_ _ _ deployment) (if_neg some)
        (nomatch ·)
      rintro es r ⟨rfl, -⟩ e he
      exact absurd he List.not_mem_nil

theorem encode_eq_nil_iff (e : Uf2.Encoder) {image : Uf2.Image} :
    e.encode image = [] ↔ image.data = [] := by
  refine ⟨fun h => ?_, encode_eq_nil e⟩
  have covered := le_ceilDiv_mul (n := image.data.length) e.payloadSize_pos
  rw [← e.length_encode image, h, List.length_nil, Nat.zero_mul, Nat.le_zero] at covered
  exact List.length_eq_zero_iff.mp covered

theorem faithful_deployFile (path : String) :
    Faithful (o.deployAim (refusalOfPath path)) (o.FileDeployment path) (o.deployFile path) where
  shows := (o.shows_deployFile path).mono fun _ _ h => ⟨h, h.exact⟩
  waits := by
    rw [deployFile]
    cases Path.fileName? path with
    | none => exact .of_calm (.throw id)
    | some name =>
        exact .after (.file (Shows.one (.openSource o.files path) fun _ => rfl).io fun _ => rfl)
          fun source => waits_deploy name
            (.file (Shows.one (.contents o.files source) fun _ => rfl).io fun _ => rfl)

theorem faithful_deployBlocks (name : String) (blocks : List Uf2.Block) :
    Faithful (o.deployAim (refusalOfContent blocks)) (o.BlockDeployment name blocks)
      (o.deployBlocks name blocks) where
  shows := (o.shows_deployBlocks name blocks).mono fun _ _ h => ⟨h, h.exact⟩
  waits := by
    rw [deployBlocks]
    split
    · exact .of_calm (.throw id)
    · exact waits_deploy name (.pure _)

/-! ### All operations -/

theorem faithful_reach (o : Orchestrator σ) (target : RecoveryTarget) :
    Faithful (o.reachAim target) (o.ReachPlan target) (o.reach target) := by
  cases target with
  | updateMode =>
      let sought := o.bootloader o.timings.portTimeout
      refine .of_accounted (.bind_discard o.shows_enterUpdateMode
        (.bind_discard sought.shows_find (.pure DeviceState.updateMode))) ?_ rfl ?_ ?_
      · exact accounted_entry fun _ =>
          .andThen sought.accounted (fun _ => .yields _) (.inr fun _ => .yields _)
      · exact .andThen Entry.untouched fun _ => .andThen sought.lookup_untouched fun _ => .yields _
      · exact .after o.calm_enterUpdateMode.discard fun _ => sought.waits.discard.before
          fun _ => .pure _
  | massStorage =>
      refine .of_accounted (.bind_discard o.shows_enterMassStorage (.pure DeviceState.massStorage))
        ?_ rfl ?_ ?_
      · exact .andThen MassStorage.accounted (fun _ => .yields _) (.inr fun _ => .yields _)
      · exact .andThen MassStorage.untouched fun _ => .yields _
      · exact o.waits_enterMassStorage.discard.before fun _ => .pure _
  | firmware =>
      exact ⟨fun s => ⟨[], .nowhere, ⟨rfl, rfl⟩, .of_refused rfl id id⟩, .of_calm (.throw id)⟩

theorem faithful_flashBootloader (o : Orchestrator σ) (elf : String) :
    Faithful o.toolAim (o.FlashPlan elf) (o.flashBootloader elf) := by
  refine .of_accounted (.bind_discard (o.shows_require "download" (o.probe.shows_execute _))
    (o.shows_require "reset" (o.probe.shows_execute _)).discard) ?_ rfl ?_ ?_
  · exact .andThen Required.accounted (fun _ => Required.accounted.discarded)
      (.inr fun _ => Required.unlooked.discarded)
  · exact .andThen Required.untouched fun _ => Required.untouched.discarded
  · exact .of_calm (.bind (o.calm_execute _ _).discard fun _ => (o.calm_execute _ _).discard)

theorem errors_exact (o : Orchestrator σ) : o.ErrorsExact where
  enterUpdateMode := .of_accounted o.shows_enterUpdateMode Entry.accounted rfl Entry.untouched
    (.of_calm o.calm_enterUpdateMode)
  forceBootsel := .of_accounted o.shows_forceBootsel Forcing.accounted rfl Forcing.untouched
    (.of_calm o.calm_forceBootsel)
  enterMassStorage := .of_accounted o.shows_enterMassStorage MassStorage.accounted rfl
    MassStorage.untouched o.waits_enterMassStorage
  deployFile := faithful_deployFile
  deployBlocks := faithful_deployBlocks
  deployImage name image := by
    have same : refusalOfContent ((Uf2.Encoder.ofFamily o.profile.family).encode image)
        = refusalOfContent image.data := by
      simp only [refusalOfContent, encode_eq_nil_iff]
    exact same ▸ faithful_deployBlocks name _
  waitForBootloader timeout := o.faithful_find (o.bootloader timeout)
  waitForFirmware product timeout := o.faithful_find (.port o.usb _ timeout)
  reach := o.faithful_reach
  flashBootloader := o.faithful_flashBootloader
  eraseAll := .of_accounted (o.shows_require "erase" (o.probe.shows_execute _)).discard
    Required.accounted.discarded rfl Required.untouched.discarded
    (.of_calm (o.calm_execute _ _).discard)

end Orchestrator

end BoardRig
