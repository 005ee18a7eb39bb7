/-
Everything a program can reach on the machine it runs on.
-/
import BoardRig.Recovery.Orchestrator
import BoardRig.Serial.Port
import BoardRig.Settings
import BoardRig.Usb.Kind

namespace BoardRig

/-- The means of a program in a world of type `σ`. -/
structure Rig (σ : Type) where
  runner : Runner σ
  files : Files σ
  /-- Whether a path leads to something. -/
  exists? : String → σ → Bool
  /-- Whether a path leads to a file. -/
  isFile : String → σ → Bool
  usb : UsbSource σ
  storage : StorageSource σ
  opener : Opener σ
  clock : Clock σ
  /-- The serial ports there are. -/
  ports : σ → List SerialPort

namespace Rig

variable {σ : Type}

def usbLocator (rig : Rig σ) (s : Settings) : UsbLocator σ where
  source := rig.usb
  clock := rig.clock
  interval := s.timings.pollInterval

def volumeLocator (rig : Rig σ) (s : Settings) : VolumeLocator σ where
  source := rig.storage
  clock := rig.clock
  interval := s.timings.pollInterval

def orchestrator (rig : Rig σ) (s : Settings) : Orchestrator σ where
  profile := s.profile
  timings := s.timings
  probe := { runner := rig.runner, files := rig.files, chip := s.profile.chip, program := s.probeProgram }
  usb := rig.usbLocator s
  storage := rig.volumeLocator s
  files := rig.files
  clock := rig.clock

end Rig

end BoardRig
