/-
Finding a volume by its label.

A pass first looks for the volume in the mount table. Only if it is not there
the block devices are listed, and the first one with the label decides: where
it is mounted is the answer, and otherwise it is asked to be mounted, so that
a later pass finds it. Sources that fail give a pass without an answer.
-/
import BoardRig.Poll
import BoardRig.Storage.BlockDevice
import BoardRig.Storage.MountTable

namespace BoardRig

/-- What is mounted and what could be, in a world of type `σ`. -/
structure StorageSource (σ : Type) where
  /-- The text of the mount table. -/
  mountTable : Action σ String
  /-- The block devices there are. -/
  blockDevices : Action σ (List BlockDevice)
  /-- Ask for a device to be mounted somewhere. -/
  mount : BlockDevice → Action σ Unit

/-- A search for volumes in regular passes. -/
structure VolumeLocator (σ : Type) where
  source : StorageSource σ
  clock : Clock σ
  interval : Duration := Duration.ofMillis 500

namespace VolumeLocator

variable {σ : Type}

def findMountedNow (l : VolumeLocator σ) (label : String) : StateM σ (Option String) := fun s =>
  match l.source.mountTable s with
  | (.ok table, s) => (Mount.findMounted? table label, s)
  | (.error _, s) => (none, s)

/-- Where the listing of block devices shows the volume; an unmounted device
with its label is asked to be mounted. -/
def findListed (l : VolumeLocator σ) (label : String) : StateM σ (Option String) := fun s =>
  match l.source.blockDevices s with
  | (.error _, s) => (none, s)
  | (.ok devices, s) =>
    match BlockDevice.findLabelled? label devices with
    | none => (none, s)
    | some device =>
      match device.mountPoint? with
      | some mountPoint => (some mountPoint, s)
      | none => (none, (l.source.mount device s).2)

/-- One pass, without waiting. -/
def locateOnce (l : VolumeLocator σ) (label : String) : StateM σ (Option String) := fun s =>
  match l.findMountedNow label s with
  | (some mountPoint, s) => (some mountPoint, s)
  | (none, s) => l.findListed label s

/-- The error for a volume that never appeared. -/
def notFound (label : String) (timeout : Duration) : Error :=
  .deviceNotFound s!"{label} drive not found within {timeout.tenths}s"

def find (l : VolumeLocator σ) (label : String) (timeout : Duration) : Action σ String :=
  (Poll.wait l.clock l.interval timeout s!"volume {label}"
    (Action.total (l.locateOnce label))).onTimeout (notFound label timeout)

end VolumeLocator

end BoardRig
