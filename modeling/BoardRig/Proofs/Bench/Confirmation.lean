/-
# `BoardRig.Proofs.Bench.Confirmation` — a success rests on what was seen last

Where a scenario succeeds, its calls come in two parts.  In the first one the
device was told what to do and given time for it (`Rebooted`, `Told`).  What
confirms the success is all in the second one: a pass that lists the ports and
reads the identity at one of them (`Sighting`), and then the answer that came
from there (`Replies`, `Reports`).  So nothing that was seen before can pass for
a confirmation (`success_is_confirmed`).
-/
import BoardRig.Proofs.Bench.Scenario
import BoardRig.Proofs.Serial.Talk

namespace BoardRig

variable {σ : Type}

/-! ## Sightings

The search may have seen the device before; only its last pass counts. -/

namespace UsbLocator

variable {source : UsbSource σ} {identity : UsbIdentity} {port : String} {es : List (Event σ)}

/-- The last pass of a search: it lists the ports, reads the identities of some,
and ends at one of the ports with the wanted identity. -/
inductive FinalPass (source : UsbSource σ) (identity : UsbIdentity) (port : String) :
    List (Event σ) → Prop where
  | seen {ports : List String} {others : List (Event σ)} (listed : port ∈ ports)
      (unlike : ∀ e ∈ others, ∃ other answer,
        e = .identity source other answer ∧ answer ≠ .ok identity) :
      FinalPass source identity port
        (.candidates source ports :: others ++ [.identity source port (.ok identity)])

/-- Calls of a search that ends with a pass which has seen the port. -/
def Sighting (source : UsbSource σ) (identity : UsbIdentity) (port : String)
    (es : List (Event σ)) : Prop :=
  ∃ earlier last, es = earlier ++ last ∧ (∀ e ∈ earlier, e.channel = .usb ∨ e.channel = .clock) ∧
    FinalPass source identity port last

theorem Scan.of_found {ports : List String} (h : Scan source identity ports es (some port)) :
    port ∈ ports ∧ ∃ others, es = others ++ [.identity source port (.ok identity)] ∧
      ∀ e ∈ others, ∃ other answer, e = .identity source other answer ∧ answer ≠ .ok identity := by
  generalize hfound : some port = found at h
  induction h with
  | nil => cases hfound
  | found =>
      cases hfound
      exact ⟨List.mem_cons_self, [], rfl, fun e he => absurd he List.not_mem_nil⟩
  | other unlike _ ih =>
      obtain ⟨listed, others, rfl, hothers⟩ := ih hfound
      refine ⟨List.mem_cons_of_mem _ listed, _ :: others, rfl, ?_⟩
      exact List.forall_mem_cons.mpr ⟨⟨_, _, rfl, unlike⟩, hothers⟩

theorem Pass.of_found (h : Pass source identity es (some port)) :
    FinalPass source identity port es := by
  cases h with
  | scan among =>
      obtain ⟨listed, others, rfl, unlike⟩ := among.of_found
      exact .seen listed unlike

theorem Sighting.of_search {clock : Clock σ} {interval timeout : Duration} {missing : Error}
    (h : Search clock interval timeout (Pass source identity) missing es (.ok port)) :
    Sighting source identity port es := by
  cases h with
  | ended passes =>
      generalize hr : Except.ok port = r at passes
      induction passes with
      | found last =>
          cases hr
          exact ⟨[], _, rfl, fun e he => absurd he List.not_mem_nil, last.of_found⟩
      | missed => cases hr
      | @again pass _ d _ vain _ ih =>
          obtain ⟨earlier, last, rfl, hearlier, hlast⟩ := ih hr
          refine ⟨pass ++ .sleep clock d :: earlier, last,
            (List.append_assoc pass (.sleep clock d :: earlier) last).symm, ?_, hlast⟩
          refine List.forall_mem_append.mpr ⟨fun e he => .inl (vain.channel e he), ?_⟩
          exact List.forall_mem_cons.mpr ⟨.inr rfl, hearlier⟩

end UsbLocator

namespace Bench

variable (b : Bench σ)

/-! ## What comes first

What the device was told.  Nothing in this part is evidence of success. -/

/-- The bootloader was found, was told something, and was rebooted, both with
success; then the time passed that a reboot takes. -/
def Rebooted (command : List String) (es : List (Event σ)) : Prop :=
  ∃ lookup port first second, es = lookup ++
      [.utility b.upload port command (.ok first), .utility b.upload port ["reboot"] (.ok second),
        .sleep b.orchestrator.clock b.orchestrator.timings.rebootSettle] ∧
    b.BootloaderLookup lookup (.ok port) ∧ first.success = true ∧ second.success = true

/-- A port was opened and took a command; then some time passed. -/
def Told (port command : String) (es : List (Event σ)) : Prop :=
  ∃ p sent, es = .connect b.opener { port } (.ok p) :: sent ++
      [.sleep b.orchestrator.clock b.orchestrator.timings.serialSettle] ∧
    Session.Sends p command sent (.ok ()) ∧
    Session.taken sent = Utf8.encodeString command ++ Session.lineEnd

/-! ## What comes last -/

/-- A port was opened and took a command, and a text was read from it. -/
def Replies (port command text : String) (es : List (Event σ)) : Prop :=
  ∃ p exchange, es = .connect b.opener { port } (.ok p) :: exchange ∧
    Session.Exchange p b.orchestrator.clock command b.orchestrator.timings.serialSettle exchange
      text

/-- The utility was asked for the status of the bootloader at a port, with
success, and its output is read as the update mode. -/
def Reports (port : String) (status : BootloaderStatus) (es : List (Event σ)) : Prop :=
  ∃ result, es = [.utility b.upload port ["status"] (.ok result)] ∧ result.success = true ∧
    BootloaderStatus.parse result.combined = .ok status ∧ status.isUpdateMode = true

/-- The firmware of a product was seen at a port, and said there that it runs
from a bank. -/
def FirmwareConfirmed (bank : UInt8) (product : UInt16) (port : String) (es : List (Event σ)) :
    Prop :=
  ∃ seen heard text, es = seen ++ heard ∧
    UsbLocator.Sighting b.orchestrator.usb.source
      (UsbIdentity.ofIds b.orchestrator.profile.vendor product) port seen ∧
    b.Replies port statusCommand text heard ∧ firmwareBank? text = some bank

/-- The bootloader was seen at a port, and reported the update mode there. -/
def BootloaderConfirmed (status : BootloaderStatus) (es : List (Event σ)) : Prop :=
  ∃ port seen asked, es = seen ++ asked ∧
    UsbLocator.Sighting b.orchestrator.usb.source b.orchestrator.profile.bootloaderIdentity port
      seen ∧
    b.Reports port status asked

/-! ## Plans that succeed

A plan that succeeds took the successful branch at each of its steps, so its calls
can be taken apart from the front. -/

variable {b} {es : List (Event σ)}

theorem UtilityStep.of_ok {port command : String} {args : List String} {result : CommandResult}
    (h : b.UtilityStep port command args es (.ok result)) :
    es = [.utility b.upload port (command :: args) (.ok result)] ∧ result.success = true := by
  cases h with
  | done success => exact ⟨rfl, success⟩

theorem RebootPlan.of_ok {α : Type} {command : String} {args : List String} {a : α}
    {Rest : Conduct σ (Except Error α)} (h : b.RebootPlan command args Rest es (.ok a)) :
    ∃ told later, es = told ++ later ∧ b.Rebooted (command :: args) told ∧ Rest later (.ok a) := by
  cases h with
  | goesOn lookup rest =>
      cases rest with
      | goesOn first rest =>
          cases rest with
          | goesOn second rest =>
              obtain ⟨later, rfl, hlater⟩ := rest.of_pauses
              obtain ⟨rfl, hfirst⟩ := UtilityStep.of_ok first
              obtain ⟨rfl, hsecond⟩ := UtilityStep.of_ok second
              refine ⟨_ ++ [_, _, _], later, ?_, ⟨_, _, _, _, rfl, lookup, hfirst, hsecond⟩, hlater⟩
              rw [List.append_assoc]
              rfl

theorem Conversation.of_ok {α : Type} {port : String} {a : α}
    {Talk : Session σ → Conduct σ (Except Error α)} (h : b.Conversation port Talk es (.ok a)) :
    ∃ p talk, es = .connect b.opener { port } (.ok p) :: talk ∧
      Talk ⟨p, b.orchestrator.clock⟩ talk (.ok a) := by
  cases h with
  | goesOn connecting talk =>
      cases connecting
      exact ⟨_, _, rfl, talk⟩

theorem confirmBank_eq_ok {bank : UInt8} {port port' reply : String}
    (h : confirmBank bank port reply = .ok port') :
    port' = port ∧ firmwareBank? reply = some bank := by
  rw [confirmBank] at h
  split at h
  · next confirmed =>
    cases h
    exact ⟨rfl, confirmed⟩
  · cases h

theorem requireUpdateMode_eq_ok {s s' : BootloaderStatus} (h : requireUpdateMode s = .ok s') :
    s' = s ∧ s.isUpdateMode = true := by
  rw [requireUpdateMode] at h
  split at h
  · next confirmed =>
    cases h
    exact ⟨rfl, confirmed⟩
  · cases h

theorem FirmwarePlan.of_ok {bank : UInt8} {product : UInt16} {port : String}
    (h : b.FirmwarePlan bank product es (.ok port)) : b.FirmwareConfirmed bank product port es := by
  cases h with
  | goesOn search rest =>
      cases rest with
      | goesOn talk believed =>
          obtain ⟨rfl, hbelieved⟩ := believed
          obtain ⟨rfl, confirmed⟩ := confirmBank_eq_ok hbelieved.symm
          obtain ⟨p, exchange, rfl, commands⟩ := Conversation.of_ok talk
          exact ⟨_, _, _, by rw [List.append_nil], .of_search search,
            ⟨p, exchange, rfl, .of_commands commands⟩, confirmed⟩

theorem ConfirmPlan.of_ok {status : BootloaderStatus} (h : b.ConfirmPlan es (.ok status)) :
    b.BootloaderConfirmed status es := by
  cases h with
  | goesOn search rest =>
      cases rest with
      | goesOn asked believed =>
          obtain ⟨rfl, hbelieved⟩ := believed
          obtain ⟨rfl, confirmed⟩ := requireUpdateMode_eq_ok hbelieved.symm
          cases asked with
          | goesOn run parsed =>
              obtain ⟨rfl, hparsed⟩ := parsed
              obtain ⟨rfl, success⟩ := UtilityStep.of_ok run
              exact ⟨_, _, _, by rw [List.append_nil]; rfl, .of_search search,
                ⟨_, rfl, success, hparsed.symm, confirmed⟩⟩

theorem ReturnPlan.of_ok {port : String} {status : BootloaderStatus}
    (h : b.ReturnPlan port es (.ok status)) :
    ∃ told later, es = told ++ later ∧ b.Told port bootloadCommand told ∧
      b.ConfirmPlan later (.ok status) := by
  cases h with
  | goesOn talk rest =>
      obtain ⟨later, rfl, confirm⟩ := rest.of_pauses
      obtain ⟨p, sent, rfl, sends⟩ := Conversation.of_ok talk
      refine ⟨.connect b.opener { port } (.ok p) :: sent ++ [_], later, ?_,
        ⟨p, sent, rfl, sends, Session.Sends.taken_eq sends⟩, confirm⟩
      rw [List.append_assoc]
      rfl

/-! ## Scenarios that succeed -/

/-- Where a scenario succeeds, the device was first told what to do, with
success and with the time that it takes; what confirms it was all seen and said
after that. -/
theorem success_is_confirmed (b : Bench σ) :
    (∀ bank product, Shows (b.bootBank bank product) fun es r =>
      ∀ port, r = .ok port → ∃ told later, es = told ++ later ∧
        b.Rebooted ["set-bank", toString bank.toNat] told ∧
        b.FirmwareConfirmed bank product port later) ∧
    (∀ port, Shows (b.returnToBootloader port) fun es r =>
      ∀ status, r = .ok status → ∃ told later, es = told ++ later ∧
        b.Told port bootloadCommand told ∧ b.BootloaderConfirmed status later) ∧
    Shows b.wipeAndConfirm fun es r =>
      ∀ status, r = .ok status → ∃ told later, es = told ++ later ∧
        b.Rebooted ["wipe"] told ∧ b.BootloaderConfirmed status later := by
  refine ⟨fun bank product => (b.shows_bootBank bank product).mono ?_,
    fun port => (b.shows_returnToBootloader port).mono ?_, b.shows_wipeAndConfirm.mono ?_⟩
  · rintro es r plan port rfl
    obtain ⟨told, later, rfl, rebooted, firmware⟩ := RebootPlan.of_ok plan
    exact ⟨told, later, rfl, rebooted, FirmwarePlan.of_ok firmware⟩
  · rintro es r plan status rfl
    obtain ⟨told, later, rfl, htold, confirm⟩ := ReturnPlan.of_ok plan
    exact ⟨told, later, rfl, htold, ConfirmPlan.of_ok confirm⟩
  · rintro es r plan status rfl
    obtain ⟨told, later, rfl, rebooted, confirm⟩ := RebootPlan.of_ok plan
    exact ⟨told, later, rfl, rebooted, ConfirmPlan.of_ok confirm⟩

/-- Firmware that answers from bank 1, beside a bootloader in the update mode. -/
theorem success_is_confirmed_beside_bootloader :
    let files : Files Bytes :=
      { scratch := fun _ w => (.error .noSuchFile, w)
        discard := fun _ w => ((), w)
        read := fun _ w => (.error .noSuchFile, w)
        openSource := fun _ w => (.error .noSuchFile, w)
        create := fun _ w => (.error .noSuchFile, w)
        contents := fun _ w => (.error .noSuchFile, w)
        append := fun _ _ w => (.error .noSuchFile, w)
        sync := fun _ w => (.error .noSuchFile, w) }
    let clock : Clock Bytes := ⟨fun _ => 0, fun _ w => w⟩
    let runner : Runner Bytes := ⟨fun _ w => (.ok (.ok "State: UpdateMode"), w)⟩
    let usb : UsbSource Bytes :=
      { candidates := fun w => (["/dev/ttyACM0", "/dev/ttyACM1"], w)
        identityOf := fun port w =>
          (.ok (.ofIds Profile.rp2040.vendor (if port = "/dev/ttyACM0" then
            Profile.rp2040.bootloaderProduct else 11)), w) }
    let reply : Bytes := [66, 97, 110, 107, 58, 32, 49]
    let answering (name : String) : Port Bytes :=
      { name
        waiting := fun w => (.ok w.length, w)
        read := fun n w => (.ok (w.take n), w.drop n)
        write := fun bytes w => (.ok bytes.length, w ++
          if bytes = Session.lineEnd then reply else [])
        flush := fun w => (.ok (), w) }
    let b : Bench Bytes :=
      { orchestrator :=
          { profile := .rp2040, timings := {}, probe := ⟨runner, files, "rp2040", "probe-rs"⟩
            usb := ⟨usb, clock, 500⟩
            storage := ⟨⟨fun w => (.ok "", w), fun w => (.ok [], w), fun _ w => (.ok (), w)⟩,
              clock, 500⟩
            files, clock }
        upload := { runner, commandLine := ["crispy-upload"] }
        opener := ⟨fun config w => (.ok (answering config.port), w)⟩ }
    let status : BootloaderStatus := ⟨none, none, none, none, some "UpdateMode"⟩
    (b.bootBank 1 11 [] = (.ok "/dev/ttyACM1", []) ∧
      ∃ told later, Leads [] (told ++ later) [] ∧ b.Rebooted ["set-bank", "1"] told ∧
        b.FirmwareConfirmed 1 11 "/dev/ttyACM1" later) ∧
    (∃ w, b.returnToBootloader "/dev/ttyACM1" [] = (.ok status, w) ∧
      ∃ told later, Leads [] (told ++ later) w ∧ b.Told "/dev/ttyACM1" "bootload" told ∧
        b.BootloaderConfirmed status later) ∧
    b.wipeAndConfirm [] = (.ok status, []) ∧
      ∃ told later, Leads [] (told ++ later) [] ∧ b.Rebooted ["wipe"] told ∧
        b.BootloaderConfirmed status later := by
  intro files clock runner usb reply answering b status
  have bootloader : ∀ w, b.bootloaderPort w = (.ok "/dev/ttyACM0", w) := fun w =>
    b.orchestrator.usb.find_of_first rfl rfl
  have parsed : BootloaderStatus.parse "State: UpdateMode" = .ok status := by
    rw [BootloaderStatus.parse, show BootloaderStatus.ofText? _ = some status by decide]
  have queried : ∀ w, b.queryStatus "/dev/ttyACM0" w = (.ok status, w) := by
    intro w
    refine Action.bind_eq_ok_iff.mpr ⟨.ok "State: UpdateMode", w, rfl, ?_⟩
    change Action.ofExcept (BootloaderStatus.parse "State: UpdateMode") w = _
    rw [parsed]
    rfl
  have confirm : ∀ w, b.confirmUpdateMode w = (.ok status, w) := by
    intro w
    refine Action.bind_eq_ok_iff.mpr ⟨_, w, bootloader w, ?_⟩
    exact Action.bind_eq_ok_iff.mpr ⟨status, w, queried w, rfl⟩
  have sent : ∀ command, Utf8.encodeString command ≠ [] →
      Utf8.encodeString command ≠ Session.lineEnd →
      (⟨answering "/dev/ttyACM1", clock⟩ : Session Bytes).writeLine command []
        = (.ok (), reply) := by
    intro command some other
    refine Action.bind_eq_ok_iff.mpr ⟨(), [], Session.writeAll_of_whole some ?_, ?_⟩
    · exact congrArg (Prod.mk (Except.ok _)) (if_neg other)
    · exact Action.bind_eq_ok_iff.mpr
        ⟨(), reply, Session.writeAll_of_whole (List.cons_ne_nil _ _) rfl, rfl⟩
  have told : b.returnToBootloader "/dev/ttyACM1" [] = (.ok status, reply) := by
    refine Action.bind_eq_ok_iff.mpr ⟨(), reply, ?_, confirm _⟩
    refine Action.bind_eq_ok_iff.mpr ⟨answering "/dev/ttyACM1", [], rfl, ?_⟩
    change Session.anew (Session.onWorld
      ((⟨answering "/dev/ttyACM1", clock⟩ : Session Bytes).writeLine bootloadCommand)) [] = _
    rw [Session.anew_onWorld]
    exact sent _ (by decide) (by decide)
  have wiped : b.wipeAndConfirm [] = (.ok status, []) := by
    rw [wipeAndConfirm, Action.bind_apply, bootloader]
    exact confirm []
  have firmware : b.orchestrator.waitForFirmware 11 b.orchestrator.timings.portTimeout []
      = (.ok "/dev/ttyACM1", []) := by
    let identity := UsbIdentity.ofIds Profile.rp2040.vendor 11
    have scanned : b.orchestrator.usb.findNow identity [] = (some "/dev/ttyACM1", []) := by
      have listed : b.orchestrator.usb.findNow identity []
        = b.orchestrator.usb.firstWith identity ["/dev/ttyACM0", "/dev/ttyACM1"] [] := rfl
      have first : b.orchestrator.usb.source.identityOf "/dev/ttyACM0" []
        = (.ok Profile.rp2040.bootloaderIdentity, []) := rfl
      have second : b.orchestrator.usb.source.identityOf "/dev/ttyACM1" [] = (.ok identity, []) :=
        rfl
      rw [listed, UsbLocator.firstWith_cons, first]
      dsimp only
      rw [if_neg (by decide), UsbLocator.firstWith_cons, second]
      exact if_pos rfl
    have found : Action.total (b.orchestrator.usb.findNow identity) []
        = (.ok (some "/dev/ttyACM1"), []) := by
      rw [Action.total, scanned]
    rw [Orchestrator.waitForFirmware, UsbLocator.find, Action.onTimeout]
    rw [Poll.wait_of_found found]
  have heard : Session.anew (Session.readAvailable ⟨answering "/dev/ttyACM1", clock⟩) reply
      = (.ok "Bank: 1", []) := by
    have drained : Utf8.drain reply = ("Bank: 1".toList, []) :=
      Utf8.drain_ascii (by decide +kernel)
    have first : Session.readStep ⟨answering "/dev/ttyACM1", clock⟩ "" ⟨reply, []⟩
        = (.ok (.inl "Bank: 1"), ⟨[], []⟩) := by
      have received : Session.receive ⟨answering "/dev/ttyACM1", clock⟩ ⟨reply, []⟩
        = (.ok 7, ⟨[], reply⟩) := rfl
      rw [Session.readStep_eq, received]
      dsimp only
      rw [drained]
      rfl
    have read : Session.readAvailable ⟨answering "/dev/ttyACM1", clock⟩ ⟨reply, []⟩
        = (.ok "Bank: 1", ⟨[], []⟩) :=
      Action.loop_of_loop? ((Action.loop?_of_again first).trans (Action.loop?_of_done rfl))
    rw [Session.anew, read]
  have booted : b.bootBank 1 11 [] = (.ok "/dev/ttyACM1", []) := by
    refine Action.bind_eq_ok_iff.mpr ⟨_, [], bootloader [], ?_⟩
    refine Action.bind_eq_ok_iff.mpr ⟨(), [], rfl, ?_⟩
    refine Action.bind_eq_ok_iff.mpr ⟨(), [], rfl, ?_⟩
    refine Action.bind_eq_ok_iff.mpr ⟨(), [], rfl, ?_⟩
    refine Action.bind_eq_ok_iff.mpr ⟨_, [], firmware, ?_⟩
    refine Action.bind_eq_ok_iff.mpr ⟨"Bank: 1", [], ?_, ?_⟩
    · refine Action.bind_eq_ok_iff.mpr ⟨answering "/dev/ttyACM1", [], rfl, ?_⟩
      change Session.anew (Session.sendCommand ⟨answering "/dev/ttyACM1", clock⟩ statusCommand _) []
        = _
      rw [Session.sendCommand, Session.anew_onWorld_bind]
      refine Action.bind_eq_ok_iff.mpr ⟨(), reply, sent _ (by decide) (by decide), ?_⟩
      rw [Session.anew_onWorld_bind]
      exact Action.bind_eq_ok_iff.mpr ⟨(), reply, rfl, heard⟩
    · rw [confirmBank, if_pos (by decide)]
      rfl
  obtain ⟨boot, return', wipe⟩ := success_is_confirmed b
  refine ⟨⟨booted, ?_⟩, ⟨_, told, ?_⟩, wiped, ?_⟩
  · obtain ⟨es, leads, confirmed⟩ := (boot 1 11).of_eq booted
    obtain ⟨first, later, rfl, h⟩ := confirmed _ rfl
    exact ⟨first, later, leads, h⟩
  · obtain ⟨es, leads, confirmed⟩ := (return' _).of_eq told
    obtain ⟨first, later, rfl, h⟩ := confirmed _ rfl
    exact ⟨first, later, leads, h⟩
  · obtain ⟨es, leads, confirmed⟩ := wipe.of_eq wiped
    obtain ⟨first, later, rfl, h⟩ := confirmed _ rfl
    exact ⟨first, later, leads, h⟩

end Bench

end BoardRig
