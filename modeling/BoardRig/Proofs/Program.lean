/-
# `BoardRig.Proofs.Program` — what the program leaves with when the device does not show up

The remarks on a failure do not change its code, which is that of the error
alone (`Failure.exitCode_eq`).  So where the operations are faithful to their
plans, the answers that tell their outcomes are (`AnswerExact`,
`answer_exact`), and so is what a whole run leaves (`RequestExact`,
`failures_exact`): the calls for the request were made, and the code says just
whether what was awaited has appeared in them.
-/
import BoardRig.Program
import BoardRig.Proofs.Answer
import BoardRig.Proofs.Recovery.Exactness

namespace BoardRig

variable {σ α : Type}

/-! ## Codes

Codes 4 and 5 are for what did not show up and for what took too long.  No cause
but an operation's error has one of them. -/

namespace Failure

/-- The cause decides, whatever was remarked on it and whatever lies behind it. -/
theorem exitCode_eq (f : Failure) : f.exitCode = f.cause.exitCode?.getD 1 := by
  have remarks : (f.contexts.reverse.map Cause.remark).findSome? Cause.exitCode? = none := by
    simp [List.findSome?_eq_none_iff, Cause.exitCode?]
  rw [exitCode, chain, List.findSome?_append, remarks, Option.none_or]
  cases f.cause <;> rfl

/-- The codes of the failures with some remarks. -/
structure Coded (contexts : List String) : Prop where
  missing : ∀ text, (⟨.operation (.deviceNotFound text), contexts⟩ : Failure).exitCode = 4
  late : ∀ text, (⟨.operation (.timeout text), contexts⟩ : Failure).exitCode = 5
  config : ∀ text, (⟨.operation (.config text), contexts⟩ : Failure).exitCode = 3
  other : ∀ e : Error, (∀ text, e ≠ .deviceNotFound text) → (∀ text, e ≠ .timeout text) →
    (∀ text, e ≠ .config text) → (⟨.operation e, contexts⟩ : Failure).exitCode = 1
  remarked : ∀ text, (⟨.remark text, contexts⟩ : Failure).exitCode = 1
  misused : ∀ text, (⟨.usage text, contexts⟩ : Failure).exitCode = 2
  misconfigured : ∀ text, (⟨.config text, contexts⟩ : Failure).exitCode = 3

theorem coded (contexts : List String) : Coded contexts where
  missing _ := exitCode_eq _
  late _ := exitCode_eq _
  config _ := exitCode_eq _
  other e missing late config := by
    rw [exitCode_eq]
    cases e with
    | deviceNotFound text => exact absurd rfl (missing text)
    | timeout text => exact absurd rfl (late text)
    | config text => exact absurd rfl (config text)
    | _ => rfl
  remarked _ := exitCode_eq _
  misused _ := exitCode_eq _
  misconfigured _ := exitCode_eq _

variable {f : Failure}

theorem exitCode_eq_missing_iff :
    f.exitCode = 4 ↔ ∃ text, f.cause = .operation (.deviceNotFound text) := by
  rw [exitCode_eq]
  rcases f with ⟨e | _ | _ | _, contexts⟩
  · cases e <;> simp [Cause.exitCode?, Error.exitCode]
  all_goals simp [Cause.exitCode?]

theorem exitCode_eq_late_iff :
    f.exitCode = 5 ↔ ∃ text, f.cause = .operation (.timeout text) := by
  rw [exitCode_eq]
  rcases f with ⟨e | _ | _ | _, contexts⟩
  · cases e <;> simp [Cause.exitCode?, Error.exitCode]
  all_goals simp [Cause.exitCode?]

end Failure

/-! ## Answers

An answer passes on the outcome of one operation and may put remarks on its error.
So what the calls say of the operation, they say of the answer. -/

/-- What the code of a failed command says about its calls. -/
structure CodeExact (awaited : Option (Awaited σ)) (es : List (Event σ))
    (r : Except Failure Report) : Prop where
  never_late : ∀ f, r = .error f → f.exitCode ≠ 5
  missing : (∃ f, r = .error f ∧ f.exitCode = 4) ↔
    ∃ sought, awaited = some sought ∧ Missed sought.Appears es

theorem CodeExact.of_exact {aim : Aim σ} {es : List (Event σ)} {outcome : Except Error α}
    {r : Except Failure Report} (exact : Exact aim es outcome) (told : Told outcome r) :
    CodeExact aim.awaited es r where
  never_late f hf := by
    cases told with
    | ok => cases hf
    | @error e contexts =>
        cases hf
        intro late
        obtain ⟨text, ⟨⟩⟩ := Failure.exitCode_eq_late_iff.mp late
        exact exact.never _ rfl trivial
  missing := by
    rw [← exact.device]
    cases told with
    | ok => exact ⟨fun ⟨_, h, _⟩ => (nomatch h), fun ⟨_, h⟩ => (nomatch h)⟩
    | @error e contexts =>
        constructor
        · rintro ⟨f, hf, missing⟩
          cases hf
          obtain ⟨text, ⟨⟩⟩ := Failure.exitCode_eq_missing_iff.mp missing
          exact ⟨text, rfl⟩
        · rintro ⟨text, h⟩
          cases h
          exact ⟨_, rfl, Failure.exitCode_eq_missing_iff.mpr ⟨text, rfl⟩⟩

theorem CodeExact.of_refusal {awaited : Option (Awaited σ)} {f : Failure} (h : f.exitCode < 4) :
    CodeExact awaited ([] : List (Event σ)) (.error f) where
  never_late f' hf := by
    cases hf
    omega
  missing := by
    refine ⟨fun ⟨f', hf, missing⟩ => ?_,
      fun ⟨_, _, ⟨e, he, _⟩, _⟩ => absurd he List.not_mem_nil⟩
    cases hf
    omega

/-- The calls of an answer from world `w` are those of the plan and go with its code,
and nothing is given up before its time is up. -/
structure AnswerExact (awaited : Option (Awaited σ)) (Plan : Conduct σ (Except Failure Report))
    (w : σ) (answered : Except Failure Report × σ) : Prop where
  calls : ∃ es, Leads w es answered.2 ∧ Plan es answered.1 ∧ CodeExact awaited es answered.1
  waited : ∀ e contexts, answered.1 = .error ⟨.operation e, contexts⟩ →
    Waited awaited w e answered.2

/-- The plan of a value that may be refused, and then nothing is done. -/
def Conduct.given (value : Except Cause α) (P : α → Conduct σ (Except Failure Report)) :
    Conduct σ (Except Failure Report) :=
  match value with
  | .ok a => P a
  | .error cause => Conduct.yields (.error ⟨cause, []⟩)

namespace AnswerExact

variable {awaited : Option (Awaited σ)} {w : σ}

theorem of_faithful {aim : Aim σ} {Plan : Conduct σ (Except Error α)} {act : Action σ α}
    {answer : Answer σ} (h : Orchestrator.Faithful aim Plan act) (tells : answer.Tells act) :
    AnswerExact aim.awaited Plan.told w (answer w) := by
  obtain ⟨told, left⟩ := tells w
  rcases hact : act w with ⟨outcome, w'⟩
  obtain ⟨es, hleads, hplan, exact⟩ := h.shows.of_eq hact
  rw [hact] at told left
  refine ⟨⟨es, left ▸ hleads, ⟨outcome, hplan, told⟩, .of_exact exact told⟩, ?_⟩
  intro e contexts hr
  rw [hr] at told
  cases told with
  | error => exact left ▸ h.waits w e w' hact

/-- What is refused for another reason than an operation has is misuse, at most. -/
theorem of_refusal {cause : Cause} (minor : (⟨cause, []⟩ : Failure).exitCode < 4)
    (other : ∀ e, cause ≠ .operation e) :
    AnswerExact awaited (Conduct.yields (.error ⟨cause, []⟩)) w
      (Answer.refusal cause w : Except Failure Report × σ) where
  calls := ⟨[], .nowhere, ⟨rfl, rfl⟩, .of_refusal minor⟩
  waited e contexts h := by
    cases h
    exact absurd rfl (other e)

/-- A time span that is refused is misuse, and then nothing is awaited. -/
theorem given {sought : Duration → Awaited σ} {default : Duration}
    {seconds : Option Decimal.Binary64} {next : Duration → Answer σ}
    {Plan : Duration → Conduct σ (Except Failure Report)}
    (h : ∀ timeout, AnswerExact (some (sought timeout)) (Plan timeout) w (next timeout w)) :
    let timeout := CommandLine.secondsOr default seconds
    AnswerExact (timeout.toOption.map sought) (Conduct.given timeout Plan) w
      (Answer.given timeout next w) := by
  cases seconds with
  | none => exact h default
  | some seconds =>
      rw [CommandLine.secondsOr]
      cases Duration.ofBinary? seconds with
      | some timeout => exact h timeout
      | none =>
          refine .of_refusal ?_ fun _ h => nomatch h
          rw [(Failure.coded []).misused]
          decide

end AnswerExact

/-! ## Commands

For each command, what it awaits and the calls that it makes.  The settings and the
configuration are read before that, and their failures have codes of their own. -/

namespace CommandLine.Request

/-- The request is for a device to be forced into a state, or to be found. -/
def OfDevice : Request → Prop
  | .updateMode _ | .bootsel _ | .deploy _ | .findPort _ _ _ | .findVolume _ _ => True
  | _ => False

end CommandLine.Request

namespace Program

variable (rig : Rig σ) (s : Settings)

/-- The port with the ids of a request, by default those of the bootloader. -/
def port (vendor product : Option UInt16) (timeout : Duration) : Awaited σ :=
  .port (rig.usbLocator s)
    (.ofIds (vendor.getD s.profile.vendor) (product.getD s.profile.bootloaderProduct)) timeout

/-- The volume with the label of a request, by default that of the chip. -/
def volume (label : Option String) (timeout : Duration) : Awaited σ :=
  .volume (rig.volumeLocator s) (label.getD s.profile.volumeLabel) timeout

/-- What a request awaits, if it awaits anything. -/
def awaited : CommandLine.Request → Option (Awaited σ)
  | .updateMode false => some ((rig.orchestrator s).bootloader s.timings.portTimeout)
  | .bootsel false | .deploy _ => some (rig.orchestrator s).volume
  | .findPort vendor product seconds =>
    (CommandLine.secondsOr s.timings.portTimeout seconds).toOption.map (port rig s vendor product)
  | .findVolume label seconds =>
    (CommandLine.secondsOr s.timings.volumeTimeout seconds).toOption.map (volume rig s label)
  | _ => none

/-- The calls for a request of a device from world `w`, with the answer. -/
def plan (w : σ) : CommandLine.Request → Conduct σ (Except Failure Report)
  | .updateMode true => Conduct.told (rig.orchestrator s).Entry
  | .updateMode false => Conduct.told <| Conduct.andThen (rig.orchestrator s).Entry fun _ =>
      ((rig.orchestrator s).bootloader s.timings.portTimeout).Lookup
  | .bootsel true => Conduct.told (rig.orchestrator s).Forcing
  | .bootsel false => Conduct.told (rig.orchestrator s).MassStorage
  | .deploy file =>
    if rig.isFile file w then Conduct.told ((rig.orchestrator s).FileDeployment file)
    else Conduct.yields (.error ⟨.remark ("UF2 file not found: " ++ file), []⟩)
  | .findPort vendor product seconds =>
    Conduct.given (CommandLine.secondsOr s.timings.portTimeout seconds) fun timeout =>
      (port rig s vendor product timeout).Lookup.told
  | .findVolume label seconds =>
    Conduct.given (CommandLine.secondsOr s.timings.volumeTimeout seconds) fun timeout =>
      (volume rig s label timeout).Lookup.told
  | _ => fun _ _ => True

theorem answer_exact {request : CommandLine.Request} (h : request.OfDevice) (w : σ) :
    AnswerExact (awaited rig s request) (plan rig s w request) w (answer rig s request w) := by
  let o := rig.orchestrator s
  cases request with
  | findPort vendor product seconds =>
      exact .given fun timeout =>
        .of_faithful (o.faithful_find (port rig s vendor product timeout)) (.of_ofAction _ _ _)
  | findVolume label seconds =>
      exact .given fun timeout =>
        .of_faithful (o.faithful_find (volume rig s label timeout)) (.of_ofAction _ _ _)
  | updateMode noWait =>
      cases noWait with
      | true => exact .of_faithful o.errors_exact.enterUpdateMode (.of_ofAction _ _ _)
      | false =>
          exact .of_faithful (o.faithful_entry_find (o.bootloader s.timings.portTimeout))
            (.thenAnswer (.of_ofAction _ _ _) (.of_ofAction _ _ _))
  | bootsel noWait =>
      cases noWait with
      | true => exact .of_faithful o.errors_exact.forceBootsel (.of_ofAction _ _ _)
      | false => exact .of_faithful o.errors_exact.enterMassStorage (.of_ofAction _ _ _)
  | deploy file =>
      change AnswerExact _ (if _ then _ else _) w (Answer.deploy rig s file w)
      rw [Answer.deploy]
      split
      · exact .of_faithful (o.errors_exact.deployFile file) (.of_ofAction _ _ _)
      · refine .of_refusal ?_ fun _ h => nomatch h
        rw [(Failure.coded []).remarked]
        decide
  | _ => exact h.elim

section CarryOut

variable {rig} {environment : String → Option String} {arguments : CommandLine.Arguments}
  {w w₁ : σ}

theorem carryOut_of_fault {fault : ConfigFault}
    (faulty : config rig environment arguments.config w = (.error fault, w₁)) :
    carryOut rig environment arguments w = (ofFailure ⟨.config fault.message, []⟩, w₁) := by
  rw [carryOut, faulty]

variable {found : Config}
  (configured : config rig environment arguments.config w = (.ok found, w₁))

include configured

theorem carryOut_snd :
    (carryOut rig environment arguments w).2
      = (answer rig (Settings.resolve arguments.flags found) arguments.request w₁).2 := by
  rw [carryOut, configured]
  dsimp only
  rcases answer rig _ arguments.request w₁ with ⟨_ | _, w₂⟩ <;> rfl

theorem carryOut_code_eq_iff {code : Nat} (positive : 0 < code) :
    (carryOut rig environment arguments w).1.code = code ↔
      ∃ f, (answer rig (Settings.resolve arguments.flags found) arguments.request w₁).1 = .error f ∧
        f.exitCode = code := by
  rw [carryOut, configured]
  dsimp only
  rcases answer rig _ arguments.request w₁ with ⟨f | report, w₂⟩
  · simp [ofFailure]
  · simp [positive.ne]

end CarryOut

/-- What is left of a request of a device from world `w`: its calls are those of the
plan, and the code says whether something was not found. -/
structure RequestExact (request : CommandLine.Request) (w : σ) (left : Outcome × σ) : Prop where
  /-- The code for what was not found is given just if a port or a volume was
  awaited, and did not appear in any of the calls. -/
  missing : ∃ es, Leads w es left.2 ∧ plan rig s w request es (answer rig s request w).1 ∧
    (left.1.code = 4 ↔
      ∃ sought, awaited rig s request = some sought ∧ Missed sought.Appears es)
  late : left.1.code = 4 → ∃ text, Waited (awaited rig s request) w (.deviceNotFound text) left.2
  endless : ∀ contexts, (answer rig s request w).1 = .error ⟨.operation .unending, contexts⟩ →
    Waited (awaited rig s request) w .unending left.2

/-- What the code says that a run leaves with, where the command line was understood. -/
structure RunExact (rig : Rig σ) (environment : String → Option String) (words : List String)
    (arguments : CommandLine.Arguments) (w : σ) : Prop where
  never_late : (run rig environment words w).1.code ≠ 5
  faulty : ∀ fault w₁, config rig environment arguments.config w = (.error fault, w₁) →
    (run rig environment words w).1.code = 3 ∧ (run rig environment words w).2 = w₁
  answered : ∀ found w₁, config rig environment arguments.config w = (.ok found, w₁) →
    RequestExact rig (Settings.resolve arguments.flags found) arguments.request w₁
      (run rig environment words w)

theorem run_exact {rig : Rig σ} {environment : String → Option String} {words : List String}
    {arguments : CommandLine.Arguments} (w : σ)
    (understood : CommandLine.parse environment words = .ok arguments)
    (device : arguments.request.OfDevice) : RunExact rig environment words arguments w := by
  have hrun : run rig environment words w = carryOut rig environment arguments w := by
    rw [run, understood]
  rcases hconfig : config rig environment arguments.config w with ⟨fault | found, w₁⟩
  · have code : (run rig environment words w).1.code = 3 := by
      rw [hrun, carryOut_of_fault hconfig]
      exact (Failure.coded []).misconfigured fault.message
    refine ⟨by rw [code]; decide, fun _ _ h => ?_, fun _ _ h => (nomatch hconfig.symm.trans h)⟩
    cases hconfig.symm.trans h
    exact ⟨code, by rw [hrun, carryOut_of_fault hconfig]⟩
  · obtain ⟨⟨es, hleads, hplan, exact⟩, waited⟩ :=
      answer_exact rig (Settings.resolve arguments.flags found) device w₁
    refine ⟨fun late => ?_, fun _ _ h => (nomatch hconfig.symm.trans h), fun _ _ h => ?_⟩
    · rw [hrun] at late
      obtain ⟨f, hf, late⟩ := (carryOut_code_eq_iff hconfig (by decide)).mp late
      exact exact.never_late f hf late
    · cases hconfig.symm.trans h
      rw [← carryOut_snd hconfig] at hleads waited
      rw [hrun]
      have code := carryOut_code_eq_iff hconfig (by decide : 0 < 4)
      refine ⟨⟨es, hleads, hplan, code.trans exact.missing⟩, fun missing => ?_, waited .unending⟩
      obtain ⟨⟨cause, contexts⟩, hf, missing⟩ := code.mp missing
      obtain ⟨text, rfl⟩ := Failure.exitCode_eq_missing_iff.mp missing
      exact ⟨text, waited _ contexts hf⟩

/-- For every behaviour of tools, ports, storage, files and clock. -/
theorem failures_exact :
    (∀ o : Orchestrator σ, o.ErrorsExact) ∧ (∀ contexts, Failure.Coded contexts) ∧
    ∀ (rig : Rig σ) environment words arguments w,
      CommandLine.parse environment words = .ok arguments → arguments.request.OfDevice →
        RunExact rig environment words arguments w :=
  ⟨Orchestrator.errors_exact, Failure.coded,
    fun _ _ _ _ w understood device => run_exact w understood device⟩

/-- A tool that does not end in time is a command that failed, and a volume that
nothing shows is not found, on a clock that always sleeps for too long. -/
theorem failures_exact_of_silent_device :
    let rig : Rig Nat :=
      { runner := ⟨fun _ now => (.error (.timeout "late"), now + 120000)⟩
        files :=
          { scratch := fun _ now => (.error .noSuchFile, now)
            discard := fun _ now => ((), now)
            read := fun _ now => (.error .noSuchFile, now)
            openSource := fun _ now => (.error .noSuchFile, now)
            create := fun _ now => (.error .noSuchFile, now)
            contents := fun _ now => (.error .noSuchFile, now)
            append := fun _ _ now => (.error .noSuchFile, now)
            sync := fun _ now => (.error .noSuchFile, now) }
        exists? := fun _ _ => false, isFile := fun _ _ => false
        usb := ⟨fun now => ([], now), fun _ now => (.error .noSuchFile, now)⟩
        storage :=
          { mountTable := fun now => (.error (.io .permissionDenied), now)
            blockDevices := fun now => (.error .json, now)
            mount := fun _ now => (.ok (), now) }
        opener := ⟨fun _ now => (.error (.serial "no port"), now)⟩
        clock := ⟨id, fun _ now => now + Duration.ofSeconds 60⟩, ports := fun _ => [] }
    let environment : String → Option String := fun _ => none
    let forcing : CommandLine.Arguments := ⟨0, {}, none, .updateMode false⟩
    let seeking : CommandLine.Arguments := ⟨0, {}, none, .findVolume none none⟩
    (CommandLine.parse environment ["update-mode"] = .ok forcing ∧
      forcing.request.OfDevice ∧ RunExact rig environment ["update-mode"] forcing 0 ∧
      (run rig environment ["update-mode"] 0).1.code = 1) ∧
    CommandLine.parse environment ["find-volume"] = .ok seeking ∧
      seeking.request.OfDevice ∧ RunExact rig environment ["find-volume"] seeking 0 ∧
      (run rig environment ["find-volume"] 0).1.code = 4 := by
  intro rig environment forcing seeking
  have forced : CommandLine.parse environment ["update-mode"] = .ok forcing := rfl
  have sought : CommandLine.parse environment ["find-volume"] = .ok seeking := rfl
  obtain ⟨-, -, exact⟩ := failures_exact (σ := Nat)
  refine ⟨⟨forced, trivial, exact rig environment _ _ 0 forced trivial, ?_⟩,
    sought, trivial, exact rig environment _ _ 0 sought trivial, ?_⟩
  · rw [run, forced]
    rfl
  · let locator := rig.volumeLocator (Settings.resolve seeking.flags {})
    let span := Duration.ofSeconds 15
    have again : ∀ late, Poll.round locator.clock locator.interval (some (0 + span)) late
        (Action.total (locator.locateOnce "RPI-RP2")) 0
          = (.ok (.inl ()), Duration.ofSeconds 60) := fun _ => rfl
    have late : ∀ late, Poll.round locator.clock locator.interval (some (0 + span)) late
        (Action.total (locator.locateOnce "RPI-RP2")) (Duration.ofSeconds 60)
          = (.error late, Duration.ofSeconds 60) := fun _ => rfl
    have missed : locator.find "RPI-RP2" span 0
        = (.error (VolumeLocator.notFound "RPI-RP2" span), Duration.ofSeconds 60) := by
      rw [VolumeLocator.find, Action.onTimeout, Poll.wait, Poll.deadline?_of_lt (by decide),
        Action.loop_of_loop?
          ((Action.loop?_of_again (again _)).trans (Action.loop?_of_error (late _)))]
      rfl
    have answered : answer rig (Settings.resolve seeking.flags {}) seeking.request 0
        = (.error ⟨.operation (VolumeLocator.notFound "RPI-RP2" span),
            ["Looking for volume " ++ "RPI-RP2"]⟩, Duration.ofSeconds 60) := by
      change Answer.ofAction _ (locator.find "RPI-RP2" span) _ 0 = _
      rw [Answer.ofAction, missed]
      rfl
    have configured : config rig environment seeking.config 0 = (.ok {}, 0) := rfl
    rw [run, sought]
    exact (carryOut_code_eq_iff configured (by decide)).mpr
      ⟨_, congrArg Prod.fst answered, Failure.exitCode_eq _⟩

end Program

end BoardRig
