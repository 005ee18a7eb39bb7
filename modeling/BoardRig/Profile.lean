/-
The chip under test: its addresses, its marks and its USB identities.

A profile can be given as a record in which every field may be missing; a
missing field has the value for the RP2040.
-/
import BoardRig.Json.Printer
import BoardRig.Usb.Identity
import BoardRig.Uf2.Block

namespace BoardRig

/-- The constants of a chip. -/
structure Profile where
  /-- The name by which the debug probe knows the chip. -/
  chip : String := "rp2040"
  family : UInt32 := Uf2.rp2040Family
  /-- Where flash begins. -/
  flashBase : UInt32 := 0x10000000
  /-- Where the second boot stage stands, and its length. -/
  stage2Address : UInt32 := 0x10000000
  stage2Size : UInt32 := 256
  /-- Where the descriptor of the firmware stands, and its length. -/
  bootDataAddress : UInt32 := 0x10190000
  bootDataSize : UInt32 := 4096
  /-- The word of memory that asks for the update mode, and what it holds
  then. -/
  flagAddress : UInt32 := 0x2003BFF0
  flagMagic : UInt32 := 0x0FDA7E00
  vendor : UInt16 := 0x2E8A
  bootloaderProduct : UInt16 := 0x000A
  firmwareProduct : UInt16 := 0x000B
  /-- The label of the volume that the mask ROM offers. -/
  volumeLabel : String := "RPI-RP2"
deriving DecidableEq, Repr

namespace Profile

def rp2040 : Profile := {}

def bootloaderIdentity (p : Profile) : UsbIdentity :=
  UsbIdentity.ofIds p.vendor p.bootloaderProduct

/-- The identity of firmware that has one of its own. -/
def firmwareIdentity (p : Profile) : UsbIdentity :=
  UsbIdentity.ofIds p.vendor p.firmwareProduct

/-- The names of the fields in a record, in the order of an array. -/
def fieldNames : List String :=
  ["chip", "family_id", "flash_base", "boot2_addr", "boot2_size", "boot_data_addr",
    "boot_data_size", "ram_update_flag_addr", "ram_update_magic", "usb_vid",
    "bootloader_pid", "firmware_pid", "volume_label"]

/-- How the fields of a record are read from values of type `β`. -/
structure Readers (β : Type) where
  text? : β → Option String
  word? : (bits : Nat) → β → Option Nat

/-- The value of a field, or its default when it is missing. -/
def orDefault {α β : Type} (read : β → Option α) (default : α) : Option β → Option α
  | none => some default
  | some v => read v

/-- The profile with the given fields, in the order of their names. -/
def ofFields? {β : Type} (r : Readers β) : List (Option β) → Option Profile
  | [chip, family, flashBase, stage2Address, stage2Size, bootDataAddress, bootDataSize,
      flagAddress, flagMagic, vendor, bootloaderProduct, firmwareProduct, volumeLabel] => do
    let d := rp2040
    let word := orDefault fun v => (r.word? 32 v).map UInt32.ofNat
    let half := orDefault fun v => (r.word? 16 v).map UInt16.ofNat
    return {
      chip := ← orDefault r.text? d.chip chip
      family := ← word d.family family
      flashBase := ← word d.flashBase flashBase
      stage2Address := ← word d.stage2Address stage2Address
      stage2Size := ← word d.stage2Size stage2Size
      bootDataAddress := ← word d.bootDataAddress bootDataAddress
      bootDataSize := ← word d.bootDataSize bootDataSize
      flagAddress := ← word d.flagAddress flagAddress
      flagMagic := ← word d.flagMagic flagMagic
      vendor := ← half d.vendor vendor
      bootloaderProduct := ← half d.bootloaderProduct bootloaderProduct
      firmwareProduct := ← half d.firmwareProduct firmwareProduct
      volumeLabel := ← orDefault r.text? d.volumeLabel volumeLabel }
  | _ => none

def jsonReaders : Readers Json := ⟨Json.string?, Json.word?⟩

def ofJson? (j : Json) : Option Profile :=
  (j.fields? fieldNames).bind (ofFields? jsonReaders)

def toJson (p : Profile) : Json :=
  Json.record (fieldNames.zip [
    .string p.chip, Json.nat p.family.toNat, Json.nat p.flashBase.toNat,
    Json.nat p.stage2Address.toNat, Json.nat p.stage2Size.toNat,
    Json.nat p.bootDataAddress.toNat, Json.nat p.bootDataSize.toNat, Json.nat p.flagAddress.toNat,
    Json.nat p.flagMagic.toNat, Json.nat p.vendor.toNat, Json.nat p.bootloaderProduct.toNat,
    Json.nat p.firmwareProduct.toNat, .string p.volumeLabel])

end Profile

end BoardRig
