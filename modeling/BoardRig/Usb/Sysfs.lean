/-
USB devices as the kernel shows them in its file system.

The candidates are the entries of the device directory whose names begin in
a given way, in ascending order. The class directory leads from the name of a
port to its interface; the device that has the ids is the directory above.
-/
import BoardRig.FileSystem.Operations
import BoardRig.Usb.Locator

namespace BoardRig

/-- Where the kernel shows its serial ports. -/
structure SysfsLayout where
  devices : String := "/dev"
  classes : String := "/sys/class/tty"
  /-- How the names of candidates begin. -/
  start : String := "ttyACM"
deriving DecidableEq, Repr

namespace SysfsLayout

def sorted (xs : List String) : List String :=
  xs.mergeSort fun a b => !(decide (b < a))

/-- The candidates among the names in the device directory. -/
def candidatesAmong (l : SysfsLayout) (names : List String) : List String :=
  sorted ((names.filter fun n => l.start.toList.isPrefixOf n.toList).map (Path.join l.devices))

/-- The candidates; there are none while the directory cannot be read. -/
def candidates (l : SysfsLayout) (fs : FileSystem) : List String :=
  match fs.names l.devices with
  | .ok names => l.candidatesAmong names
  | .error _ => []

def idDirectory (l : SysfsLayout) (name : String) : String :=
  Path.join (Path.join (Path.join l.classes name) "device") ".."

def identityOf (l : SysfsLayout) (fs : FileSystem) (port : String) :
    Except IoError UsbIdentity := do
  match Path.fileName? port with
  | none => .error ⟨.other, "no tty name"⟩
  | some name =>
    let directory := l.idDirectory name
    let vendor ← fs.readText (Path.join directory "idVendor")
    let product ← fs.readText (Path.join directory "idProduct")
    return UsbIdentity.ofAttributes vendor product

/-- The source of candidates in a world that holds a file system. -/
def source {σ : Type} (l : SysfsLayout) (get : σ → FileSystem) : UsbSource σ where
  candidates s := (l.candidates (get s), s)
  identityOf port s := (l.identityOf (get s) port, s)

end SysfsLayout

end BoardRig
