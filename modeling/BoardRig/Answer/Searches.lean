/-
Listing ports, and waiting for devices and volumes.
-/
import BoardRig.Answer.Report
import BoardRig.CommandLine.Values
import BoardRig.Rig

namespace BoardRig.Answer

variable {σ : Type}

def portJson (p : Profile) (port : SerialPort) : Json :=
  Json.record [
    ("name", .string port.name),
    ("device", Json.orNull (port.identity?.map fun i => .string (DeviceKind.classify i p).name)),
    ("vid", Json.orNull (port.vendor.map fun v => Json.nat v.toNat)),
    ("pid", Json.orNull (port.productId.map fun v => Json.nat v.toNat)),
    ("manufacturer", Json.orNull (port.manufacturer.map .string)),
    ("product", Json.orNull (port.product.map .string)),
    ("serial", Json.orNull (port.serialNumber.map .string))]

def listPorts (rig : Rig σ) (s : Settings) (json : Bool) : Answer σ := fun world =>
  let ports := rig.ports world
  let report :=
    if json then
      Report.ofJson (Json.record [("ports", .array (ports.map (portJson s.profile)))])
    else
      Report.sheet "Serial ports" (if ports.isEmpty then ["No serial ports found"]
        else ports.map fun port => "• " ++ port.line s.profile)
  (.ok report, world)

/-- Wait for a port with a USB identity, by default that of the bootloader. -/
def findPort (rig : Rig σ) (s : Settings) (vendor product : Option UInt16)
    (timeout : Option Decimal.Binary64) : Answer σ :=
  let identity := UsbIdentity.ofIds (vendor.getD s.profile.vendor)
    (product.getD s.profile.bootloaderProduct)
  Answer.given (CommandLine.secondsOr s.timings.portTimeout timeout) fun timeout =>
    Answer.ofAction ("Looking for " ++ identity.text)
      ((rig.usbLocator s).find identity timeout) Report.result

/-- Wait for a volume with a label, by default that of the chip. -/
def findVolume (rig : Rig σ) (s : Settings) (label : Option String)
    (timeout : Option Decimal.Binary64) : Answer σ :=
  let label := label.getD s.profile.volumeLabel
  Answer.given (CommandLine.secondsOr s.timings.volumeTimeout timeout) fun timeout =>
    Answer.ofAction ("Looking for volume " ++ label)
      ((rig.volumeLocator s).find label timeout) Report.result

end BoardRig.Answer
