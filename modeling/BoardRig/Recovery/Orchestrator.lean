/-
Bringing a device into a known state, whatever state it is in.

The device is forced with the debug probe alone, and what became of it is
confirmed by a fresh sign: a USB identity, or a mounted volume. For the
update mode the descriptor of the firmware is overwritten and a magic word is
written; both may fail, and only the reset has to succeed. For the volume of
the mask ROM the second boot stage is zeroed and the chip is reset; both have
to succeed. A UF2 file is deployed by copying it to that volume.
-/
import BoardRig.Probe
import BoardRig.Profile
import BoardRig.Recovery.State
import BoardRig.Storage.Locator
import BoardRig.Timings
import BoardRig.Uf2.Encoder
import BoardRig.Usb.Locator

namespace BoardRig

/-- All that is needed to recover a device. -/
structure Orchestrator (σ : Type) where
  profile : Profile
  timings : Timings
  probe : Probe σ
  usb : UsbLocator σ
  storage : VolumeLocator σ
  files : Files σ
  clock : Clock σ

namespace Orchestrator

variable {σ : Type}

/-- Run a step of the probe that has to succeed. -/
def require (o : Orchestrator σ) (step : String) (act : StateM σ CommandResult) :
    Action σ CommandResult := fun s =>
  match act s with
  | (result, s) => (result.checked (o.probe.program ++ " " ++ step), s)

/-! ## Forcing

All that is done with the probe.  What came of it is not looked at here. -/

/-- Force the update mode of the bootloader. Both requests are made every
time; whether the mode was reached is left to the caller to confirm. -/
def enterUpdateMode (o : Orchestrator σ) : Action σ UpdateEntry := do
  let p := o.profile
  let erase ← Action.total (o.probe.fill p.bootDataAddress p.bootDataSize.toNat 0xFF)
  let magic ← Action.total (o.probe.writeWord p.flagAddress p.flagMagic)
  discard (o.require "reset" o.probe.reset)
  o.clock.pause o.timings.updateModeSettle
  return ⟨erase.success, magic.success⟩

/-- Force the mask ROM to offer its volume, which is not waited for. -/
def forceBootsel (o : Orchestrator σ) : Action σ Unit := do
  let p := o.profile
  discard (o.require "download (stage-2 invalidate)"
    (o.probe.fill p.stage2Address p.stage2Size.toNat 0x00))
  discard (o.require "reset" o.probe.reset)

/-- Force the mask ROM to offer its volume, and wait for it. -/
def enterMassStorage (o : Orchestrator σ) : Action σ String := do
  o.forceBootsel
  o.clock.pause o.timings.bootselEnumeration
  o.storage.find o.profile.volumeLabel o.timings.volumeTimeout

/-! ## Deploying

The device restarts once the file is complete, so it is seen to reach the volume and
a pause follows. -/

/-- Write a file with some name to the volume; yields its path. -/
def deploy (o : Orchestrator σ) (name : String) (content : Action σ Bytes) : Action σ String := do
  let volume ← o.enterMassStorage
  let path := Path.join volume name
  let file ← Action.ofIo (o.files.create path)
  Action.ofIo (o.files.append file (← content))
  Action.ofIo (o.files.sync file)
  o.clock.pause o.timings.uf2RebootSettle
  return path

/-- Deploy a UF2 file under its own name. -/
def deployFile (o : Orchestrator σ) (path : String) : Action σ String := do
  match Path.fileName? path with
  | none => throw (Uf2.Fault.noFileName path).error
  | some name =>
    let source ← Action.ofIo (o.files.openSource path)
    o.deploy name (Action.ofIo (o.files.contents source))

def deployBlocks (o : Orchestrator σ) (name : String) (blocks : List Uf2.Block) :
    Action σ String :=
  if blocks.isEmpty then throw Uf2.Fault.noBlocks.error
  else o.deploy name (pure (blocks.flatMap Uf2.Block.toFrame))

def deployImage (o : Orchestrator σ) (name : String) (image : Uf2.Image) : Action σ String :=
  o.deployBlocks name ((Uf2.Encoder.ofFamily o.profile.family).encode image)

/-! ## Confirming

A state is confirmed by a search, and observed in one pass. -/

def waitForBootloader (o : Orchestrator σ) (timeout : Duration) : Action σ String :=
  o.usb.find o.profile.bootloaderIdentity timeout

def waitForFirmware (o : Orchestrator σ) (product : UInt16) (timeout : Duration) :
    Action σ String :=
  o.usb.find (UsbIdentity.ofIds o.profile.vendor product) timeout

/-- Bring the device into a state and confirm it. Firmware cannot be reached
with the probe. -/
def reach (o : Orchestrator σ) : RecoveryTarget → Action σ DeviceState
  | .updateMode => do
    discard o.enterUpdateMode
    discard (o.waitForBootloader o.timings.portTimeout)
    return .updateMode
  | .massStorage => do
    discard o.enterMassStorage
    return .massStorage
  | .firmware =>
    throw (.unsupported "firmware is booted through the upload utility, not the debug probe")

/-- What can be seen of the device right now. -/
def observe (o : Orchestrator σ) : StateM σ DeviceState := do
  if (← o.storage.findMountedNow o.profile.volumeLabel).isSome then return .massStorage
  if (← o.usb.findNow o.profile.bootloaderIdentity).isSome then return .updateMode
  if (← o.usb.findNow o.profile.firmwareIdentity).isSome then return .firmware none
  return .unknown

/-! ## Flash as a whole -/

/-- Write the bootloader into flash and reset into it. -/
def flashBootloader (o : Orchestrator σ) (elf : String) : Action σ Unit := do
  discard (o.require "download" (o.probe.downloadElf elf))
  discard (o.require "reset" o.probe.reset)

def eraseAll (o : Orchestrator σ) : Action σ Unit :=
  discard (o.require "erase" o.probe.eraseChip)

end Orchestrator

end BoardRig
