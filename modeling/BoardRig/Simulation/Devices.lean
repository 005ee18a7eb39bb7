/-
Devices that come and go: USB ports and storage.

A port is listed from some pass on, and its identity may never be readable.
The mount table can change on its own after a number of readings, and both
the table and the listing of devices can be made to fail. A mount request
adds a line to the table when a mount point was set up for the device.
-/
import BoardRig.Storage.Locator
import BoardRig.Usb.Locator

namespace BoardRig.Simulation

/-! ## USB -/

/-- A port that may be listed. -/
structure UsbEntry where
  port : String
  identity : Option UsbIdentity
  /-- The last pass in which it is not listed. -/
  hiddenThrough : Nat
deriving DecidableEq, Repr

/-- The ports, and how often they were listed. -/
structure UsbBus where
  entries : List UsbEntry := []
  passes : Nat := 0
deriving DecidableEq, Repr

namespace UsbBus

/-- A port that is listed after some more passes. -/
def insert (bus : UsbBus) (port : String) (identity : Option UsbIdentity) (after : Nat) : UsbBus :=
  { bus with entries := bus.entries ++ [⟨port, identity, after⟩] }

def remove (bus : UsbBus) (port : String) : UsbBus :=
  { bus with entries := bus.entries.filter (·.port != port) }

def list (bus : UsbBus) : List String × UsbBus :=
  let pass := bus.passes + 1
  ((bus.entries.filter fun e => e.hiddenThrough < pass).map (·.port), { bus with passes := pass })

def identityOf (bus : UsbBus) (port : String) : Except IoError UsbIdentity :=
  match (bus.entries.find? (·.port == port)).bind (·.identity) with
  | some identity => .ok identity
  | none => .error ⟨.notFound, "no idVendor"⟩

def source {σ : Type} (get : σ → UsbBus) (set : UsbBus → σ → σ) : UsbSource σ where
  candidates s :=
    let (ports, bus) := (get s).list
    (ports, set bus s)
  identityOf port s := ((get s).identityOf port, s)

end UsbBus

/-! ## Storage -/

/-- A mount table, a listing of devices, and what happens to them. -/
structure Storage where
  table : String := ""
  devices : List BlockDevice := []
  /-- Where a device is mounted when that is asked for. -/
  targets : List (String × String) := []
  /-- Tables that replace the current one in the reading after a given one. -/
  later : List (Nat × String) := []
  tableFails : Bool := false
  devicesFail : Bool := false
  /-- How often the table was read. -/
  reads : Nat := 0
  /-- How often the devices were listed. -/
  scans : Nat := 0
  /-- The devices for which a mount was asked. -/
  mounted : List String := []

namespace Storage

def mountLine (name path : String) : String :=
  s!"/dev/{name} {path} vfat rw 0 0\n"

def addMount (st : Storage) (name path : String) : Storage :=
  { st with table := st.table ++ mountLine name path }

/-- The storage with a mount point set up for a device. -/
def mountTo (st : Storage) (name path : String) : Storage :=
  { st with targets := (name, path) :: st.targets }

/-- The storage whose table changes after some more readings. -/
def tableAfter (st : Storage) (reads : Nat) (table : String) : Storage :=
  { st with later := st.later ++ [(st.reads + reads, table)] }

def readTable (st : Storage) : Except Error String × Storage :=
  let st := { st with reads := st.reads + 1 }
  if st.tableFails then (.error (.io ⟨.other, "mount table unreadable"⟩), st)
  else
    let (due, later) := st.later.partition fun (after, _) => after < st.reads
    let table := due.foldl (fun _ (_, table) => table) st.table
    (.ok table, { st with table, later })

def listDevices (st : Storage) : Except Error (List BlockDevice) × Storage :=
  if st.devicesFail then (.error (.io ⟨.other, "lsblk unavailable"⟩), st)
  else (.ok st.devices, { st with scans := st.scans + 1 })

def mount (st : Storage) (d : BlockDevice) : Except Error Unit × Storage :=
  let st := { st with mounted := st.mounted ++ [d.name] }
  match st.targets.lookup d.name with
  | some path => (.ok (), st.addMount d.name path)
  | none =>
    (.error (.commandFailed s!"udisksctl mount -b /dev/{d.name}"
      "Error mounting: not authorized"), st)

def acting {σ α : Type} (get : σ → Storage) (set : Storage → σ → σ)
    (act : Storage → Except Error α × Storage) : Action σ α := fun s =>
  let (outcome, st) := act (get s)
  (outcome, set st s)

def source {σ : Type} (get : σ → Storage) (set : Storage → σ → σ) : StorageSource σ where
  mountTable := acting get set readTable
  blockDevices := acting get set listDevices
  mount d := acting get set (mount · d)

end Storage

end BoardRig.Simulation
