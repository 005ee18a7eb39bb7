/-
# `BoardRig.Proofs.Recovery.Deployment` — the volume of the mask ROM, and files on it

The steps of forcing the volume, of waiting for it and of writing a file to it
end with the first one that fails (`Forcing`, `MassStorage`, `Deployment`), and
what can be refused at once is refused before the first of them
(`FileDeployment`, `BlockDeployment`).  So nothing is done out of order
(`InOrder`, `deployment_in_order`): the tool is run only for forcing, time
passes and the storage is asked only after a reset that succeeded, and a file
is made only on a volume that was found.
-/
import BoardRig.Proofs.Conduct.Order
import BoardRig.Proofs.Path
import BoardRig.Proofs.Recovery.UpdateMode
import BoardRig.Proofs.Storage.Volume
import BoardRig.Proofs.Uf2.Lossless

namespace BoardRig.Orchestrator

variable {σ : Type} (o : Orchestrator σ)

/-! ## The steps

Each relation has one constructor for every way to end: one for each step that may
fail, and one for success. -/

/-- The bytes that the second boot stage is overwritten with. -/
def blankStage : Bytes := List.replicate o.profile.stage2Size.toNat 0x00

/-- The calls that force the volume, with the outcome. -/
inductive Forcing : List (Event σ) → Except Error Unit → Prop where
  | unwritten {es : List (Event σ)} {result : CommandResult}
      (filled : Probe.Download o.probe o.profile.stage2Address o.blankStage es result)
      (failure : result.success = false) :
      Forcing es (.error (.commandFailed
        (o.probe.program ++ " " ++ "download (stage-2 invalidate)") result.combined))
  | refused {es : List (Event σ)} {result : CommandResult} {reset : Except Error CommandResult}
      (filled : Probe.Download o.probe o.profile.stage2Address o.blankStage es result)
      (success : result.success = true) (failure : (Probe.resultOf reset).success = false) :
      Forcing (es ++ [.probe o.probe o.resetCommand reset]) (.error (o.resetError reset))
  | forced {es : List (Event σ)} {result : CommandResult} {reset : Except Error CommandResult}
      (filled : Probe.Download o.probe o.profile.stage2Address o.blankStage es result)
      (success : result.success = true) (done : (Probe.resultOf reset).success = true) :
      Forcing (es ++ [.probe o.probe o.resetCommand reset]) (.ok ())

/-- The calls of a search for the volume, with the outcome. -/
abbrev VolumeSearch : Conduct σ (Except Error String) :=
  Search o.storage.clock o.storage.interval o.timings.volumeTimeout
    (VolumeLocator.Pass o.storage.source o.profile.volumeLabel)
    (VolumeLocator.notFound o.profile.volumeLabel o.timings.volumeTimeout)

/-- The calls that force the volume and wait for it, with the outcome. -/
inductive MassStorage : List (Event σ) → Except Error String → Prop where
  | stopped {es : List (Event σ)} {e : Error} (forcing : o.Forcing es (.error e)) :
      MassStorage es (.error e)
  | searched {es lookup : List (Event σ)} {r : Except Error String}
      (forced : o.Forcing es (.ok ())) (search : o.VolumeSearch lookup r) :
      MassStorage (es ++ .sleep o.clock o.timings.bootselEnumeration :: lookup) r

/-- The calls that fill a file that was made, and wait for the reboot. -/
inductive Filling (file : Nat) (Content : Conduct σ (Except Error Bytes)) :
    List (Event σ) → Except Error Unit → Prop where
  | unread {es : List (Event σ)} {e : Error} (content : Content es (.error e)) :
      Filling file Content es (.error e)
  | unwritten {es : List (Event σ)} {bytes : Bytes} {e : IoError}
      (content : Content es (.ok bytes)) :
      Filling file Content (es ++ [.append o.files file bytes (.error e)]) (.error (.io e))
  | unsynced {es : List (Event σ)} {bytes : Bytes} {e : IoError}
      (content : Content es (.ok bytes)) :
      Filling file Content
        (es ++ [.append o.files file bytes (.ok ()), .sync o.files file (.error e)])
        (.error (.io e))
  | filled {es : List (Event σ)} {bytes : Bytes} (content : Content es (.ok bytes)) :
      Filling file Content
        (es ++ [.append o.files file bytes (.ok ()), .sync o.files file (.ok ()),
          .sleep o.clock o.timings.uf2RebootSettle]) (.ok ())

/-- The calls that write a file with some name and content to the volume. -/
inductive Deployment (name : String) (Content : Conduct σ (Except Error Bytes)) :
    List (Event σ) → Except Error String → Prop where
  | stopped {es : List (Event σ)} {e : Error} (volume : o.MassStorage es (.error e)) :
      Deployment name Content es (.error e)
  | uncreated {es : List (Event σ)} {root : String} {e : IoError}
      (volume : o.MassStorage es (.ok root)) :
      Deployment name Content (es ++ [.create o.files (Path.join root name) (.error e)])
        (.error (.io e))
  | failed {es es' : List (Event σ)} {root : String} {file : Nat} {e : Error}
      (volume : o.MassStorage es (.ok root)) (filling : o.Filling file Content es' (.error e)) :
      Deployment name Content (es ++ .create o.files (Path.join root name) (.ok file) :: es')
        (.error e)
  | deployed {es es' : List (Event σ)} {root : String} {file : Nat}
      (volume : o.MassStorage es (.ok root)) (filling : o.Filling file Content es' (.ok ())) :
      Deployment name Content (es ++ .create o.files (Path.join root name) (.ok file) :: es')
        (.ok (Path.join root name))

/-- The calls that deploy a file under its own name. -/
inductive FileDeployment (path : String) : List (Event σ) → Except Error String → Prop where
  | nameless (nameless : Path.fileName? path = none) :
      FileDeployment path [] (.error (Uf2.Fault.noFileName path).error)
  | unopened {name : String} {e : IoError} (named : Path.fileName? path = some name) :
      FileDeployment path [.openSource o.files path (.error e)] (.error (.io e))
  | opened {name : String} {source : Nat} {es : List (Event σ)} {r : Except Error String}
      (named : Path.fileName? path = some name)
      (deployment : o.Deployment name (Conduct.one (.contents o.files source)).io es r) :
      FileDeployment path (.openSource o.files path (.ok source) :: es) r

/-- The calls that deploy blocks under a name. -/
inductive BlockDeployment (name : String) (blocks : List Uf2.Block) :
    List (Event σ) → Except Error String → Prop where
  | nothing (nothing : blocks = []) :
      BlockDeployment name blocks [] (.error Uf2.Fault.noBlocks.error)
  | blocks {es : List (Event σ)} {r : Except Error String} (some : blocks ≠ [])
      (deployment : o.Deployment name
        (Conduct.yields (.ok (blocks.flatMap Uf2.Block.toFrame))) es r) :
      BlockDeployment name blocks es r

/-! ## Runs -/

theorem shows_forceBootsel : Shows o.forceBootsel o.Forcing := by
  have steps : Shows o.forceBootsel _ :=
    .bind_discard (o.shows_require "download (stage-2 invalidate)"
        (o.probe.shows_programBinary o.profile.stage2Address o.blankStage))
      (o.shows_require "reset" (o.probe.shows_execute o.resetCommand)).discard
  refine steps.mono fun es r h => ?_
  cases h with
  | stops first =>
      cases first with
      | failed filled failure => exact .unwritten filled failure
  | goesOn first rest =>
      cases first with
      | succeeded filled success =>
          obtain ⟨_, reset, rfl⟩ := rest
          cases reset with
          | succeeded run done =>
              cases run
              exact .forced filled success done
          | failed run failure =>
              cases run
              rw [Probe.combined_resultOf]
              exact .refused filled success failure

theorem shows_enterMassStorage : Shows o.enterMassStorage o.MassStorage := by
  have steps : Shows o.enterMassStorage _ :=
    o.shows_forceBootsel.bind fun _ =>
      (Shows.pause o.clock o.timings.bootselEnumeration).bind fun _ =>
        o.storage.shows_find o.profile.volumeLabel o.timings.volumeTimeout
  refine steps.mono fun es r h => ?_
  cases h with
  | stops forcing => exact .stopped forcing
  | goesOn forced rest =>
      obtain ⟨lookup, rfl, search⟩ := rest.of_pauses
      exact .searched forced search

theorem shows_deploy (name : String) {content : Action σ Bytes}
    {Content : Conduct σ (Except Error Bytes)} (h : Shows content Content) :
    Shows (o.deploy name content) (o.Deployment name Content) := by
  have steps : Shows (o.deploy name content) _ :=
    o.shows_enterMassStorage.bind fun root =>
      (Shows.one (.create o.files (Path.join root name)) fun _ => rfl).io.bind fun file =>
        h.bind fun bytes => (Shows.one (.append o.files file bytes) fun _ => rfl).io.bind fun _ =>
          (Shows.one (.sync o.files file) fun _ => rfl).io.bind fun _ =>
            (Shows.pause o.clock o.timings.uf2RebootSettle).bind fun _ =>
              .pure (Path.join root name)
  refine steps.mono fun es r h => ?_
  cases h with
  | stops volume => exact .stopped volume
  | goesOn volume creating =>
      obtain ⟨cause, rfl, rfl⟩ | ⟨file, _, rfl, reading⟩ := creating.of_io
      · exact .uncreated volume
      cases reading with
      | stops content => exact .failed volume (.unread content)
      | goesOn content writing =>
          obtain ⟨cause, rfl, rfl⟩ | ⟨_, _, rfl, syncing⟩ := writing.of_io
          · exact .failed volume (.unwritten content)
          obtain ⟨cause, rfl, rfl⟩ | ⟨_, _, rfl, settling⟩ := syncing.of_io
          · exact .failed volume (.unsynced content)
          obtain ⟨_, rfl, rfl, rfl⟩ := settling.of_pauses
          exact .deployed volume (.filled content)

theorem shows_deployFile (path : String) :
    Shows (o.deployFile path) (o.FileDeployment path) := by
  intro s
  rw [deployFile]
  cases named : Path.fileName? path with
  | none => exact ⟨[], .nowhere, .nameless named⟩
  | some name =>
      have steps : Shows (Action.ofIo (o.files.openSource path) >>= fun source =>
          o.deploy name (Action.ofIo (o.files.contents source))) _ :=
        (Shows.one (.openSource o.files path) fun _ => rfl).io.bind fun source =>
          o.shows_deploy name (Shows.one (.contents o.files source) fun _ => rfl).io
      refine steps.mono (fun es r h => ?_) s
      obtain ⟨cause, rfl, rfl⟩ | ⟨source, _, rfl, deployment⟩ := h.of_io
      · exact .unopened named
      · exact .opened named deployment

theorem shows_deployBlocks (name : String) (blocks : List Uf2.Block) :
    Shows (o.deployBlocks name blocks) (o.BlockDeployment name blocks) := by
  intro s
  rw [deployBlocks]
  split
  · next h => exact ⟨[], .nowhere, .nothing (List.isEmpty_iff.mp h)⟩
  · next h =>
    obtain ⟨es, hleads, deployment⟩ := o.shows_deploy name
      (Shows.pure (blocks.flatMap Uf2.Block.toFrame)) s
    exact ⟨es, hleads, .blocks (fun hnil => h (List.isEmpty_iff.mpr hnil)) deployment⟩

/-! ## Order

What may stand where in the calls, for all deployments at once.  The parts of a
deployment are guarded one by one and then put behind each other. -/

/-- The runs of the probe's tool, and what is done with the files for it. -/
def toolCalls (es : List (Event σ)) : List (Event σ) :=
  es.filter fun e => e.channel = .probe ∨ e.channel = .scratch

def ResetDone (e : Event σ) : Prop :=
  ∃ answer, e = .probe o.probe o.resetCommand answer ∧ (Probe.resultOf answer).success = true

/-- Bytes were written to a file, and have reached its volume. -/
def Written (es : List (Event σ)) : Prop :=
  (∃ file bytes, .append o.files file bytes (.ok ()) ∈ es) ∧
    ∃ file, .sync o.files file (.ok ()) ∈ es

/-- Calls in the order of the steps, for files with some names. -/
structure InOrder (named : String → Prop) (es : List (Event σ)) : Prop where
  /-- The tool is run for nothing but forcing the volume. -/
  tool : toolCalls es = [] ∨ ∃ r, o.Forcing (toolCalls es) r
  /-- Time passes and the storage is asked only after a reset that succeeded. -/
  reset : Guarded o.ResetDone (fun e => e.channel = .clock ∨ e.channel = .storage) es
  /-- A file is made only right after the volume was found, and in its root. -/
  created : ∀ before files dest answer after, es = before ++ .create files dest answer :: after →
    ∃ earlier lookup root name, before = earlier ++ lookup ∧
      o.VolumeSearch lookup (.ok root) ∧ named name ∧ dest = Path.join root name
  /-- The reboot is waited for just if the file was written. -/
  settled : ∀ before files dest answer after, es = before ++ .create files dest answer :: after →
    (.sleep o.clock o.timings.uf2RebootSettle ∈ after ↔ o.Written after) ∧
      ∀ d, .sleep o.clock d ∈ after → d = o.timings.uf2RebootSettle

variable {o} {es : List (Event σ)}

theorem toolCalls_append (es es' : List (Event σ)) :
    toolCalls (es ++ es') = toolCalls es ++ toolCalls es' :=
  List.filter_append ..

theorem toolCalls_eq_self (h : ∀ e ∈ es, e.channel = .probe ∨ e.channel = .scratch) :
    toolCalls es = es :=
  List.filter_eq_self.mpr fun e he => decide_eq_true (h e he)

theorem toolCalls_eq_nil (h : ∀ e ∈ es, e.channel ≠ .probe ∧ e.channel ≠ .scratch) :
    toolCalls es = [] :=
  List.filter_eq_nil_iff.mpr fun e he => by
    rw [decide_eq_true_eq, not_or]
    exact h e he

/-! ### Forcing -/

theorem Forcing.channel {r : Except Error Unit} (h : o.Forcing es r) :
    ∀ e ∈ es, e.channel = .probe ∨ e.channel = .scratch := by
  cases h with
  | unwritten filled => exact filled.channel
  | refused filled =>
      exact List.forall_mem_append.mpr ⟨filled.channel, by simp [Event.channel]⟩
  | forced filled =>
      exact List.forall_mem_append.mpr ⟨filled.channel, by simp [Event.channel]⟩

theorem Forcing.reset {r : Except Error Unit} (h : o.Forcing es r) :
    Guarded o.ResetDone (fun e => e.channel = .clock ∨ e.channel = .storage) es := by
  refine .of_forall_not fun e he => ?_
  obtain htool | htool := h.channel e he <;> simp [htool]

theorem Forcing.reset_done (h : o.Forcing es (.ok ())) : ∃ g ∈ es, o.ResetDone g := by
  cases h with
  | @forced _ _ reset _ _ done =>
      exact ⟨_, List.mem_append_right _ (List.mem_singleton_self _), reset, rfl, done⟩

/-! ### Waiting for the volume -/

theorem VolumeSearch.channel {r : Except Error String} (h : o.VolumeSearch es r) :
    ∀ e ∈ es, e.channel = .clock ∨ e.channel = .storage :=
  Conduct.Within.search (fun _ _ pass e he => .inr (VolumeLocator.Pass.channel pass e he))
    (fun _ => .inl rfl) (fun _ => .inl rfl) es r h

theorem MassStorage.reset_done {root : String} (h : o.MassStorage es (.ok root)) :
    ∃ g ∈ es, o.ResetDone g := by
  cases h with
  | searched forced search =>
      obtain ⟨g, hg, done⟩ := forced.reset_done
      exact ⟨g, List.mem_append_left _ hg, done⟩

theorem MassStorage.reset {r : Except Error String} (h : o.MassStorage es r) :
    Guarded o.ResetDone (fun e => e.channel = .clock ∨ e.channel = .storage) es := by
  cases h with
  | stopped forcing => exact forcing.reset
  | searched forced search => exact forced.reset.append_of_guard forced.reset_done _

theorem MassStorage.tool {r : Except Error String} (h : o.MassStorage es r) :
    ∃ r', o.Forcing (toolCalls es) r' := by
  cases h with
  | stopped forcing => exact ⟨_, (toolCalls_eq_self forcing.channel).symm ▸ forcing⟩
  | @searched forced lookup _ forcing search =>
      have hrest : toolCalls (.sleep o.clock o.timings.bootselEnumeration :: lookup) = [] := by
        refine toolCalls_eq_nil (List.forall_mem_cons.mpr ⟨by simp [Event.channel], fun e he => ?_⟩)
        obtain hclock | hstorage := VolumeSearch.channel search e he <;> simp [*]
      rw [toolCalls_append, toolCalls_eq_self forcing.channel, hrest, List.append_nil]
      exact ⟨_, forcing⟩

theorem MassStorage.no_files {r : Except Error String} (h : o.MassStorage es r) :
    ∀ e ∈ es, e.channel ≠ .files := by
  cases h with
  | stopped forcing =>
      intro e he
      obtain htool | htool := forcing.channel e he <;> simp [htool]
  | searched forcing search =>
      refine List.forall_mem_append.mpr ⟨fun e he => ?_,
        List.forall_mem_cons.mpr ⟨by simp [Event.channel], fun e he => ?_⟩⟩
      · obtain htool | htool := forcing.channel e he <;> simp [htool]
      · obtain hclock | hstorage := VolumeSearch.channel search e he <;> simp [*]

/-! ### Writing a file

A file is made once, on the volume that was found, and behind it come only the file
itself and the pause.  The content may be read in between from another file. -/

def IsCreate (e : Event σ) : Prop := ∃ files dest answer, e = .create files dest answer

theorem inOrder_of_no_create {named : String → Prop}
    (tool : toolCalls es = [] ∨ ∃ r, o.Forcing (toolCalls es) r)
    (reset : Guarded o.ResetDone (fun e => e.channel = .clock ∨ e.channel = .storage) es)
    (none : ∀ e ∈ es, ¬ IsCreate e) : o.InOrder named es := by
  have absurd' : ∀ before files dest answer after,
      es ≠ before ++ .create files dest answer :: after := by
    rintro before files dest answer after rfl
    exact none _ (List.mem_append_right _ List.mem_cons_self) ⟨files, dest, answer, rfl⟩
  exact ⟨tool, reset, fun _ _ _ _ _ h => absurd h (absurd' _ _ _ _ _),
    fun _ _ _ _ _ h => absurd h (absurd' _ _ _ _ _)⟩

theorem MassStorage.inOrder {named : String → Prop} {r : Except Error String}
    (h : o.MassStorage es r) : o.InOrder named es := by
  refine inOrder_of_no_create (.inr h.tool) h.reset ?_
  rintro _ he ⟨files, dest, answer, rfl⟩
  exact h.no_files _ he rfl

/-- What is done behind the making of a file. -/
structure Tail (o : Orchestrator σ) (es : List (Event σ)) : Prop where
  channel : ∀ e ∈ es, e.channel = .files ∨ e.channel = .clock
  no_create : ∀ e ∈ es, ¬ IsCreate e
  settled : (.sleep o.clock o.timings.uf2RebootSettle ∈ es ↔ o.Written es) ∧
    ∀ d, .sleep o.clock d ∈ es → d = o.timings.uf2RebootSettle

theorem MassStorage.inOrder_create {named : String → Prop} {root name : String}
    {answer : Except IoError Nat} {tail : List (Event σ)} (volume : o.MassStorage es (.ok root))
    (hname : named name) (htail : Tail o tail) :
    o.InOrder named (es ++ .create o.files (Path.join root name) answer :: tail) := by
  have no_create : ∀ e ∈ es, ¬ IsCreate e := by
    rintro _ he ⟨files, dest, answer, rfl⟩
    exact volume.no_files _ he rfl
  have once : ∀ {before files dest answer' after},
      es ++ .create o.files (Path.join root name) answer :: tail
        = before ++ .create files dest answer' :: after →
      before = es ∧ Event.create files dest answer' = .create o.files (Path.join root name) answer ∧
        after = tail :=
    fun h => eq_of_append_cons_eq no_create htail.no_create ⟨_, _, _, rfl⟩ h
  refine ⟨.inr ?_, volume.reset.append_of_guard volume.reset_done _, ?_, ?_⟩
  · have hrest : toolCalls (.create o.files (Path.join root name) answer :: tail) = [] := by
      refine toolCalls_eq_nil (List.forall_mem_cons.mpr ⟨by simp [Event.channel], fun e he => ?_⟩)
      obtain hfiles | hclock := htail.channel e he <;> simp [*]
    rw [toolCalls_append, hrest, List.append_nil]
    exact volume.tool
  · intro before files dest answer' after h
    obtain ⟨rfl, hcreate, rfl⟩ := once h
    cases hcreate
    cases volume with
    | @searched forced lookup _ forcing search =>
        exact ⟨forced ++ [.sleep o.clock o.timings.bootselEnumeration], lookup, root, name,
          by rw [List.append_assoc, List.singleton_append], search, hname, rfl⟩
  · intro before files dest answer' after h
    obtain ⟨rfl, hcreate, rfl⟩ := once h
    exact htail.settled

/-- The calls do nothing but read open files. -/
def Reads (es : List (Event σ)) : Prop :=
  ∀ e ∈ es, ∃ files file answer, e = .contents files file answer

theorem Reads.mem_append_iff (reads : Reads es) {es' : List (Event σ)} {e : Event σ}
    (h : ∀ files file answer, e ≠ .contents files file answer) : e ∈ es ++ es' ↔ e ∈ es' := by
  rw [List.mem_append, or_iff_right]
  intro he
  obtain ⟨files, file, answer, rfl⟩ := reads e he
  exact h files file answer rfl

theorem Reads.tail_append (reads : Reads es) {es' : List (Event σ)} (htail : Tail o es') :
    Tail o (es ++ es') := by
  refine ⟨List.forall_mem_append.mpr ⟨fun e he => ?_, htail.channel⟩,
    List.forall_mem_append.mpr ⟨fun e he => ?_, htail.no_create⟩, ?_⟩
  · obtain ⟨files, file, answer, rfl⟩ := reads e he
    exact .inl rfl
  · obtain ⟨files, file, answer, rfl⟩ := reads e he
    rintro ⟨_, _, _, h⟩
    cases h
  · simpa [Written, reads.mem_append_iff] using htail.settled

theorem Filling.tail {file : Nat} {Content : Conduct σ (Except Error Bytes)}
    {r : Except Error Unit} (reads : ∀ es r, Content es r → Reads es)
    (h : o.Filling file Content es r) : Tail o es := by
  cases h with
  | unread content =>
      rw [← List.append_nil es]
      exact (reads _ _ content).tail_append ⟨by simp, by simp, by simp [Written]⟩
  | unwritten content =>
      exact (reads _ _ content).tail_append
        ⟨by simp [Event.channel], by simp [IsCreate], by simp [Written]⟩
  | unsynced content =>
      exact (reads _ _ content).tail_append
        ⟨by simp [Event.channel], by simp [IsCreate], by simp [Written]⟩
  | filled content =>
      exact (reads _ _ content).tail_append
        ⟨by simp [Event.channel], by simp [IsCreate], by simp [Written]⟩

theorem Deployment.inOrder {named : String → Prop} {name : String}
    {Content : Conduct σ (Except Error Bytes)} {r : Except Error String} (hname : named name)
    (reads : ∀ es r, Content es r → Reads es) (h : o.Deployment name Content es r) :
    o.InOrder named es := by
  cases h with
  | stopped volume => exact volume.inOrder
  | uncreated volume => exact volume.inOrder_create hname ⟨by simp, by simp, by simp [Written]⟩
  | failed volume filling => exact volume.inOrder_create hname (filling.tail reads)
  | deployed volume filling => exact volume.inOrder_create hname (filling.tail reads)

theorem Forcing.inOrder {named : String → Prop} {r : Except Error Unit} (h : o.Forcing es r) :
    o.InOrder named es := by
  refine inOrder_of_no_create (.inr ⟨r, (toolCalls_eq_self h.channel).symm ▸ h⟩) h.reset ?_
  rintro _ he ⟨files, dest, answer, rfl⟩
  obtain htool | htool := h.channel _ he <;> cases htool

theorem InOrder.cons_openSource {named : String → Prop} {files : Files σ} {path : String}
    {answer : Except IoError Nat} (h : o.InOrder named es) :
    o.InOrder named (.openSource files path answer :: es) := by
  have behind : ∀ {before files' dest answer' after},
      .openSource files path answer :: es = before ++ .create files' dest answer' :: after →
      ∃ earlier, before = .openSource files path answer :: earlier ∧
        es = earlier ++ .create files' dest answer' :: after := by
    intro before files' dest answer' after hsplit
    cases before with
    | nil => cases hsplit
    | cons e earlier =>
        obtain ⟨rfl, hes⟩ := List.cons.inj hsplit
        exact ⟨earlier, rfl, hes⟩
  refine ⟨h.tool, ?_, ?_, ?_⟩
  · exact (Guarded.of_forall_not (by simp [Event.channel]) : Guarded _ _ [_]).append h.reset
  · intro before files' dest answer' after hsplit
    obtain ⟨earlier, rfl, hes⟩ := behind hsplit
    obtain ⟨first, lookup, root, name, rfl, found⟩ := h.created _ _ _ _ _ hes
    exact ⟨_ :: first, lookup, root, name, rfl, found⟩
  · intro before files' dest answer' after hsplit
    obtain ⟨earlier, rfl, hes⟩ := behind hsplit
    exact h.settled _ _ _ _ _ hes

theorem inOrder_nil {named : String → Prop} : o.InOrder named [] :=
  inOrder_of_no_create (.inl rfl) (.of_forall_not (by simp)) (by simp)

theorem FileDeployment.inOrder {path : String} {r : Except Error String}
    (h : o.FileDeployment path es r) :
    o.InOrder (fun name => Path.fileName? path = some name) es := by
  cases h with
  | nameless => exact inOrder_nil
  | unopened => exact inOrder_nil.cons_openSource
  | opened named deployment =>
      refine (deployment.inOrder named ?_).cons_openSource
      rintro es r ⟨answer, rfl, -⟩ e he
      exact ⟨_, _, _, List.mem_singleton.mp he⟩

theorem BlockDeployment.inOrder {name : String} {blocks : List Uf2.Block} {r : Except Error String}
    (h : o.BlockDeployment name blocks es r) : o.InOrder (· = name) es := by
  cases h with
  | nothing => exact inOrder_nil
  | blocks _ deployment =>
      refine deployment.inOrder rfl ?_
      rintro es r ⟨rfl, -⟩ e he
      exact absurd he List.not_mem_nil

theorem encode_eq_nil (e : Uf2.Encoder) {image : Uf2.Image} (h : image.data = []) :
    e.encode image = [] := by
  rw [← List.length_eq_zero_iff, e.length_encode image, h]
  exact zero_ceilDiv _

end BoardRig.Orchestrator
