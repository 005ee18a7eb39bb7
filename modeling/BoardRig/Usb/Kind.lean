/-
What a USB identity means for the chip under test, and how serial ports are
listed with it.
-/
import BoardRig.Profile

namespace BoardRig

/-- What a device is, judged by its identity alone. -/
inductive DeviceKind where
  /-- The bootloader, or firmware that keeps the identity of the kit. -/
  | bootloader
  | firmware
  | sameVendor
  | unknown
deriving DecidableEq, Repr

namespace DeviceKind

def classify (i : UsbIdentity) (p : Profile) : DeviceKind :=
  if i = p.bootloaderIdentity then .bootloader
  else if i = p.firmwareIdentity then .firmware
  else if i.vendor = UsbIdentity.digits p.vendor then .sameVendor
  else .unknown

def name : DeviceKind → String
  | .bootloader => "crispy bootloader"
  | .firmware => "crispy firmware"
  | .sameVendor => "Raspberry Pi device"
  | .unknown => "Unknown"

end DeviceKind

/-- A serial port with what the system tells about it. -/
structure SerialPort where
  name : String
  vendor : Option UInt16 := none
  productId : Option UInt16 := none
  manufacturer : Option String := none
  product : Option String := none
  serialNumber : Option String := none
deriving DecidableEq, Repr

namespace SerialPort

def identity? (port : SerialPort) : Option UsbIdentity :=
  match port.vendor, port.productId with
  | some v, some p => some (UsbIdentity.ofIds v p)
  | _, _ => none

/-- The identity of a port in brackets, with its kind if that is known. -/
def tag (p : Profile) (port : SerialPort) : String :=
  match port.identity? with
  | none => ""
  | some i =>
    match DeviceKind.classify i p with
    | .unknown => " [" ++ i.text ++ "]"
    | kind => " [" ++ i.text ++ " " ++ kind.name ++ "]"

def line (p : Profile) (port : SerialPort) : String :=
  port.name ++ port.tag p ++ (port.product.elim "" (" - " ++ ·))

end SerialPort

end BoardRig
