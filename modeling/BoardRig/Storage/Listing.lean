/-
The listing of block devices as a JSON document.

The document is a record with the list of devices, and each device is a
record with its name, and possibly a label, one or several mount points and
its children. Only so many records and lists may be open around a value.
-/
import BoardRig.Error
import BoardRig.Json.Reader
import BoardRig.Storage.BlockDevice

namespace BoardRig.BlockDevice

/-- The fields of a device, in the order in which an array gives them. -/
def fieldNames : List String :=
  ["name", "label", "mountpoint", "mountpoints", "children"]

/-- The list under a field that may be missing, when `depth` more containers
may be opened. -/
def listField? {α : Type} (depth : Nat) (read : List Json → Option (List α)) :
    Option Json → Option (List α)
  | none => some []
  | some j => if depth = 0 then none else j.array?.bind read

/-- The device that a value describes, when `depth` more containers may be
opened. -/
def ofJson? : (depth : Nat) → Json → Option BlockDevice
  | 0, _ => none
  | depth + 1, j =>
    match j.fields? fieldNames with
    | some [some name, label, mountPoint, mountPoints, children] => do
      let name ← name.string?
      let label ← Json.field? Json.nullableString? none label
      let mountPoint ← Json.field? Json.nullableString? none mountPoint
      let mountPoints ← listField? depth (·.mapM Json.nullableString?) mountPoints
      let children ← match depth with
        | 0 => if children.isNone then some [] else none
        | depth + 1 => listField? (depth + 1) (·.mapM (ofJson? depth)) children
      return mk name label mountPoint mountPoints children
    | _ => none

def ofDocument? (j : Json) : Option (List BlockDevice) :=
  match j.fields? ["blockdevices"] with
  | some [devices] =>
    listField? (Json.nestingLimit - 1) (·.mapM (ofJson? (Json.nestingLimit - 2))) devices
  | _ => none

def parseListing (text : String) : Except Error (List BlockDevice) :=
  match (Json.parse? text.toList).bind ofDocument? with
  | some devices => .ok devices
  | none => .error .json

end BoardRig.BlockDevice
