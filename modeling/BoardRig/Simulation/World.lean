/-
A whole bench in memory: time, files, scripted programs, devices and ports.

Time passes only while somebody waits. Everything that an operation can reach
is a part of the world, so that what an operation did can be read off from
the world after it.
-/
import BoardRig.Bench
import BoardRig.Simulation.Devices
import BoardRig.Simulation.Ports
import BoardRig.Simulation.Script

namespace BoardRig.Simulation

/-- A bench in memory. -/
structure World where
  time : Duration := 0
  files : FileSystem := .empty
  script : Script := {}
  usb : UsbBus := {}
  storage : Storage := {}
  ports : PortBank := {}

namespace World

def clock : Clock World where
  now w := w.time
  sleep d w := { w with time := w.time + d }

def runner : Runner World :=
  Script.runner (·.script) (fun script w => { w with script }) (·.files)

def fileAccess : Files World :=
  Files.ofFileSystem (·.files) (fun files w => { w with files }) "/"

def usbSource : UsbSource World :=
  UsbBus.source (·.usb) (fun usb w => { w with usb })

def storageSource : StorageSource World :=
  Storage.source (·.storage) (fun storage w => { w with storage })

def opener : Opener World :=
  PortBank.opener (·.ports) (fun ports w => { w with ports })

/-- The means of recovery in such a world. -/
def orchestrator (profile : Profile) (timings : Timings) (program : String) :
    Orchestrator World where
  profile
  timings
  probe := { runner, files := fileAccess, chip := profile.chip, program }
  usb := { source := usbSource, clock, interval := timings.pollInterval }
  storage := { source := storageSource, clock, interval := timings.pollInterval }
  files := fileAccess
  clock

end World

end BoardRig.Simulation
