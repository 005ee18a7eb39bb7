/-
Whole scenarios on the bench: uploading firmware into a bank, booting it,
sending it back to the bootloader, and clearing everything.

Each scenario is a sequence of steps that ends at the first one that fails,
and each success rests on a sign that was seen after the last step.
-/
import BoardRig.Recovery.Orchestrator
import BoardRig.Serial.Session
import BoardRig.Status
import BoardRig.Upload

namespace BoardRig

/-- A device with every way of reaching it. -/
structure Bench (σ : Type) where
  orchestrator : Orchestrator σ
  upload : UploadClient σ
  opener : Opener σ

namespace Bench

variable {σ : Type}

def statusCommand : String := "status"

/-- The command that sends firmware back to the bootloader. -/
def bootloadCommand : String := "bootload"

/-- Talk to a port over a session that is opened for it. -/
def withSession {α : Type} (b : Bench σ) (port : String)
    (talk : Session σ → Action (Line σ) α) : Action σ α := do
  let port ← b.opener.connect { port }
  fun s =>
    match talk ⟨port, b.orchestrator.clock⟩ ⟨s, []⟩ with
    | (outcome, line) => (outcome, line.world)

def bootloaderPort (b : Bench σ) : Action σ String :=
  b.orchestrator.waitForBootloader b.orchestrator.timings.portTimeout

/-- Run a step of the upload utility that has to succeed. -/
def require (step : String) (act : Action σ CommandResult) : Action σ CommandResult := do
  Action.ofExcept ((← act).checked step)

/-! ## Status

A status is asked for with the upload utility, and its report is read. -/

/-- The status that the bootloader at a port reports. -/
def queryStatus (b : Bench σ) (port : String) : Action σ BootloaderStatus := do
  let result ← require "status" (b.upload.status port)
  Action.ofExcept (BootloaderStatus.parse result.combined)

def requireUpdateMode (s : BootloaderStatus) : Except Error BootloaderStatus :=
  if s.isUpdateMode then .ok s
  else .error (.parse ("expected UpdateMode, bootloader reports " ++ Text.quoteOption s.state))

/-- Confirm that the bootloader is back and in the update mode. -/
def confirmUpdateMode (b : Bench σ) : Action σ BootloaderStatus := do
  let port ← b.bootloaderPort
  Action.ofExcept (requireUpdateMode (← b.queryStatus port))

/-! ## Scenarios

What was rebooted is looked at again before a scenario succeeds. -/

/-- Force the update mode and send an image into a bank. -/
def uploadToBank (b : Bench σ) (firmware : String) (bank : UInt8) (version : UInt32) :
    Action σ CommandResult := do
  discard b.orchestrator.enterUpdateMode
  let port ← b.bootloaderPort
  require "upload" (b.upload.upload port firmware bank version)

/-- Whether a reply of firmware on a port confirms a bank. -/
def confirmBank (bank : UInt8) (port reply : String) : Except Error String :=
  if firmwareBank? reply = some bank then .ok port
  else
    let seen := String.ofList (Text.quote (Text.trim reply.toList))
    .error (.parse s!"expected 'Bank: {bank.toNat}' from {port}, got {seen}")

/-- Choose a bank, reboot, and have the firmware confirm it; yields its port. -/
def bootBank (b : Bench σ) (bank : UInt8) (product : UInt16) : Action σ String := do
  let o := b.orchestrator
  let port ← b.bootloaderPort
  discard (require "set-bank" (b.upload.setBank port bank))
  discard (require "reboot" (b.upload.reboot port))
  o.clock.pause o.timings.rebootSettle
  let firmware ← o.waitForFirmware product o.timings.portTimeout
  let reply ← b.withSession firmware (·.sendCommand statusCommand o.timings.serialSettle)
  Action.ofExcept (confirmBank bank firmware reply)

/-- Send firmware back to the bootloader and confirm the update mode. -/
def returnToBootloader (b : Bench σ) (port : String) : Action σ BootloaderStatus := do
  let o := b.orchestrator
  b.withSession port fun session => Session.onWorld (session.writeLine bootloadCommand)
  o.clock.pause o.timings.serialSettle
  b.confirmUpdateMode

/-- Clear all banks, reboot, and confirm the update mode. -/
def wipeAndConfirm (b : Bench σ) : Action σ BootloaderStatus := do
  let o := b.orchestrator
  let port ← b.bootloaderPort
  discard (require "wipe" (b.upload.wipe port))
  discard (require "reboot" (b.upload.reboot port))
  o.clock.pause o.timings.rebootSettle
  b.confirmUpdateMode

end Bench

end BoardRig
