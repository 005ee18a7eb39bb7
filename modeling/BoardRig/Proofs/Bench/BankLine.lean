/-
# `BoardRig.Proofs.Bench.BankLine` — the line that confirms a bank

A bank that was booted is confirmed by the reply of the firmware, and the reply by
its lines (`BootloaderStatus.LinesDecide`).  So the number of a confirmed bank stands
behind a token on its line, or the token is the last thing on its line and the
number begins a later one (`confirmed_on_lines`).  The second way confirms a bank
that no line names (`count_confirms_bank`).
-/
import BoardRig.Proofs.Bench.Confirmation
import BoardRig.Proofs.Serial.Stale
import BoardRig.Proofs.Status.BankLine

namespace BoardRig.Bench

open BootloaderStatus

variable {σ : Type}

/-- The firmware of a product was seen at a port, and replied there with a text whose
lines name a bank, or let it straddle some of them. -/
def NamedOrStraddling (b : Bench σ) (bank : UInt8) (product : UInt16) (port : String)
    (es : List (Event σ)) : Prop :=
  ∃ seen heard text, es = seen ++ heard ∧
    UsbLocator.Sighting b.orchestrator.usb.source
      (UsbIdentity.ofIds b.orchestrator.profile.vendor product) port seen ∧
    b.Replies port statusCommand text heard ∧
    ∀ lines, Typeset text lines →
      (∃ line ∈ lines, Names bank.toNat line) ∨ Straddles bank.toNat lines

theorem FirmwareConfirmed.namedOrStraddling {b : Bench σ} {bank : UInt8} {product : UInt16}
    {port : String} {es : List (Event σ)} (h : b.FirmwareConfirmed bank product port es) :
    b.NamedOrStraddling bank product port es := by
  obtain ⟨seen, heard, text, split, sighted, replied, confirmed⟩ := h
  refine ⟨seen, heard, text, split, sighted, replied, fun lines typeset => ?_⟩
  exact (linesDecide typeset).stands confirmed

/-- The lines of a text decide on its bank, and every bank that is booted with success
is named on a line of the reply or straddles some lines of it. -/
theorem confirmed_on_lines (text : String) (lines : List (List Char)) (b : Bench σ) (bank : UInt8)
    (product : UInt16) :
    (Typeset text lines → LinesDecide text lines) ∧
    Shows (b.bootBank bank product) fun es r => ∀ port, r = .ok port →
      ∃ told later, es = told ++ later ∧ b.Rebooted ["set-bank", toString bank.toNat] told ∧
        b.NamedOrStraddling bank product port later := by
  refine ⟨linesDecide, (b.shows_bootBank bank product).mono ?_⟩
  rintro es r plan port rfl
  obtain ⟨told, later, rfl, rebooted, firmware⟩ := RebootPlan.of_ok plan
  exact ⟨told, later, rfl, rebooted, (FirmwarePlan.of_ok firmware).namedOrStraddling⟩

/-- Firmware names bank 1 on a line; the same firmware with a bare token has a number
of errors taken for the bank. -/
theorem confirmed_on_lines_of_firmware :
    let named := "Crispy Firmware\r\nBank: 1\r\n"
    let namedLines := ["Crispy Firmware\r".toList, "Bank: 1\r".toList, []]
    let counted := "Bank:\r\n\r\n0 errors\r\n"
    let countedLines := ["Bank:\r".toList, ['\r'], "0 errors\r".toList, []]
    let runner : Runner Session.Device := ⟨fun _ w => (.ok (.ok ""), w)⟩
    let opener : Opener Session.Device := ⟨fun _ w => (.ok Session.answered.port, w)⟩
    let rig := Rig.single runner opener "/dev/ttyACM0" Profile.rp2040.bootloaderIdentity
    let b : Bench Session.Device :=
      ⟨rig.orchestrator (Settings.resolve {} {}), ⟨runner, ["crispy-upload"], none, 0⟩, opener⟩
    let product := Profile.rp2040.bootloaderProduct
    ((Typeset named namedLines ∧ ∀ line ∈ namedLines, ¬ Bare line) ∧
      firmwareBank? named = some 1 ∧ ∃ line ∈ namedLines, Names 1 line) ∧
    (Typeset counted countedLines ∧ firmwareBank? counted = some 0) ∧
    ∃ w w', b.bootBank 0 product w = (.ok "/dev/ttyACM0", w') ∧
      ∃ told later, Leads w (told ++ later) w' ∧ b.Rebooted ["set-bank", "0"] told ∧
        b.NamedOrStraddling 0 product "/dev/ttyACM0" later := by
  intro named namedLines counted countedLines runner opener rig b product
  obtain ⟨decide₁, -⟩ := confirmed_on_lines named namedLines b 0 product
  obtain ⟨decide₂, boots⟩ := confirmed_on_lines counted countedLines b 0 product
  have typeset : Typeset named namedLines := ⟨by decide, by decide⟩
  have closed : ∀ line ∈ namedLines, ¬ Bare line := by decide
  obtain ⟨-, alone⟩ := (decide₁ typeset).closed closed
  have one : firmwareBank? named = some 1 := by decide
  have typeset' : Typeset counted countedLines := ⟨by decide, by decide⟩
  have numbered : Numbered (0 : UInt8).toNat "0 errors\r".toList := by
    exact leadingByte?_eq_some_iff.mp (by decide)
  have zero : firmwareBank? counted = some 0 := by
    have blank : ∀ line ∈ [['\r']], ∀ c ∈ line, Text.isBlank c = true :=
      List.forall_mem_singleton.mpr (List.forall_mem_singleton.mpr (by decide))
    exact @(decide₂ typeset').across [] [['\r']] [[]] "Bank:\r".toList
      "0 errors\r".toList 0 rfl (List.forall_mem_nil _) (by decide) (by decide) blank numbered
  have found : ∀ w, b.bootloaderPort w = (.ok "/dev/ttyACM0", w) :=
    fun _ => Rig.find_single ..
  have found' : ∀ w, b.orchestrator.waitForFirmware product b.orchestrator.timings.portTimeout w
      = (.ok "/dev/ttyACM0", w) := fun _ => Rig.find_single ..
  let answer := Utf8.encodeString counted
  let w : Session.Device := ⟨[], [], answer⟩
  have replied := @Session.sendCommand_answered_text counted statusCommand
    b.orchestrator.timings.serialSettle (by decide) (by decide) (by decide)
  have booted : b.bootBank 0 product w = (.ok "/dev/ttyACM0", ⟨answer, [], []⟩) := by
    refine Action.bind_eq_ok_iff.mpr ⟨_, w, found w, ?_⟩
    refine Action.bind_eq_ok_iff.mpr ⟨(), w, rfl, ?_⟩
    refine Action.bind_eq_ok_iff.mpr ⟨(), w, rfl, ?_⟩
    refine Action.bind_eq_ok_iff.mpr ⟨(), w, rfl, ?_⟩
    refine Action.bind_eq_ok_iff.mpr ⟨_, w, found' w, ?_⟩
    refine Action.bind_eq_ok_iff.mpr ⟨counted, ⟨answer, [], []⟩, ?_, ?_⟩
    · refine Action.bind_eq_ok_iff.mpr ⟨Session.answered.port, w, rfl, ?_⟩
      change Session.anew (Session.answered.sendCommand statusCommand _) w = _
      rw [Session.anew, replied]
    · rw [Session.confirmBank_eq_ok_iff.mpr zero]
      rfl
  obtain ⟨es, leads, confirmed⟩ := boots.of_eq booted
  obtain ⟨told, later, rfl, rebooted, firmware⟩ := confirmed _ rfl
  exact ⟨⟨⟨typeset, closed⟩, one, alone one⟩, ⟨typeset', zero⟩, _, _, booted, told, later, leads,
    rebooted, firmware⟩

/-- The number of errors on the line below is taken for the bank. -/
theorem count_confirms_bank :
    let reply := "Bank:\r\n0 errors\r\n"
    let lines := ["Bank:\r".toList, "0 errors\r".toList, []]
    Typeset reply lines ∧ (∀ line ∈ lines, ¬ Names 0 line) ∧ firmwareBank? reply = some 0 ∧
      confirmBank 0 "/dev/ttyACM0" reply = .ok "/dev/ttyACM0" := by
  intro reply lines
  have zero : firmwareBank? reply = some 0 := by decide
  have unnamed : ∀ line ∈ lines, ¬ Names (0 : UInt8).toNat line := by decide
  exact ⟨⟨by decide, by decide⟩, unnamed, zero, Session.confirmBank_eq_ok_iff.mpr zero⟩

end BoardRig.Bench
