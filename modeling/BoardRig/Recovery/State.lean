/-
The states of the device under test as the host can tell them apart, and what
was prepared before a reset into the update mode.
-/
import BoardRig.Json.Printer

namespace BoardRig

/-- Where the device is. -/
inductive DeviceState where
  /-- Nothing known is present. -/
  | unknown
  /-- The mask ROM offers its volume. -/
  | massStorage
  /-- The bootloader waits for an upload. -/
  | updateMode
  /-- Firmware runs; its bank is known only from what it says itself. -/
  | firmware (bank : Option UInt8)
deriving DecidableEq, Repr

namespace DeviceState

def text : DeviceState → String
  | .unknown => "unknown"
  | .massStorage => "mass-storage programming (BOOTSEL)"
  | .updateMode => "bootloader update mode"
  | .firmware (some bank) => s!"firmware running (bank {bank.toNat})"
  | .firmware none => "firmware running"

def toJson : DeviceState → Json
  | .unknown => Json.record [("state", .string "unknown")]
  | .massStorage => Json.record [("state", .string "mass_storage_programming")]
  | .updateMode => Json.record [("state", .string "bootloader_update_mode")]
  | .firmware bank =>
    Json.record [("state", .string "firmware_running"),
      ("bank", Json.orNull (bank.map fun b => Json.nat b.toNat))]

end DeviceState

/-- The states that a caller can ask for. -/
inductive RecoveryTarget where
  | massStorage
  | updateMode
  | firmware
deriving DecidableEq, Repr

/-- Which requests for the update mode were in place before the reset. -/
structure UpdateEntry where
  /-- The descriptor of the firmware was overwritten. -/
  descriptorErased : Bool
  /-- The magic word was written. -/
  magicWritten : Bool
deriving DecidableEq, Repr

namespace UpdateEntry

/-- Whether at least one request was in place. -/
def anyArmed (e : UpdateEntry) : Bool :=
  e.descriptorErased || e.magicWritten

def toJson (e : UpdateEntry) : Json :=
  Json.record [("descriptor_erased", .bool e.descriptorErased),
    ("magic_written", .bool e.magicWritten)]

end UpdateEntry

end BoardRig
