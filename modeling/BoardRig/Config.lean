/-
The configuration of a rig: the chip, the tools, and how long to wait.

A configuration is a TOML document with three parts, each of which may be
missing. What a part does not say keeps its default.
-/
import BoardRig.FileSystem.Access
import BoardRig.Profile
import BoardRig.Timings
import BoardRig.Toml.Reader

namespace BoardRig

/-- The tools a configuration may name. -/
structure Tools where
  /-- The tool that drives the debug probe. -/
  probe : Option String := none
  /-- The command line of the upload utility. -/
  upload : Option (List String) := none
  /-- The directory that the upload utility runs in. -/
  projectRoot : Option String := none
deriving DecidableEq, Repr

/-- What a configuration says. -/
structure Config where
  profile : Profile := {}
  tools : Tools := {}
  timings : Timings := {}
deriving DecidableEq, Repr

/-! ## Parts -/

def Profile.tomlReaders : Readers Toml.Value := ⟨Toml.Value.text?, Toml.Value.word?⟩

def Profile.ofToml? (v : Toml.Value) : Option Profile :=
  (v.fields? fieldNames).bind (ofFields? tomlReaders)

/-- A value that need not be there. -/
def Toml.Value.given? {α : Type} (read : Toml.Value → Option α) :
    Option Toml.Value → Option (Option α)
  | none => some none
  | some v => (read v).map some

namespace Tools

def fieldNames : List String := ["probe", "upload", "project_root"]

def ofToml? (v : Toml.Value) : Option Tools := do
  match ← v.wholeFields? fieldNames with
  | [probe, upload, projectRoot] =>
    return {
      probe := ← Toml.Value.given? Toml.Value.text? probe
      upload := ← Toml.Value.given? Toml.Value.texts? upload
      projectRoot := ← Toml.Value.given? Toml.Value.text? projectRoot }
  | _ => none

end Tools

namespace Timings

/-- The names of the fields, in the order of a list; all are in
milliseconds. -/
def fieldNames : List String :=
  ["poll_interval_ms", "update_mode_settle_ms", "bootsel_enumeration_ms",
    "uf2_reboot_settle_ms", "reboot_settle_ms", "serial_settle_ms", "port_ms", "volume_ms",
    "upload_ms"]

def span? (default : Duration) (field : Option Toml.Value) : Option Duration :=
  (Toml.Value.given? (Toml.Value.word? 64) field).map fun ms =>
    (ms.map Duration.ofMillis).getD default

/-- The pauses and time limits that a TOML value describes. -/
def ofToml? (v : Toml.Value) : Option Timings := do
  match ← v.wholeFields? fieldNames with
  | [pollInterval, updateModeSettle, bootselEnumeration, uf2RebootSettle, rebootSettle,
      serialSettle, portTimeout, volumeTimeout, uploadTimeout] =>
    let d : Timings := {}
    return {
      pollInterval := ← span? d.pollInterval pollInterval
      updateModeSettle := ← span? d.updateModeSettle updateModeSettle
      bootselEnumeration := ← span? d.bootselEnumeration bootselEnumeration
      uf2RebootSettle := ← span? d.uf2RebootSettle uf2RebootSettle
      rebootSettle := ← span? d.rebootSettle rebootSettle
      serialSettle := ← span? d.serialSettle serialSettle
      portTimeout := ← span? d.portTimeout portTimeout
      volumeTimeout := ← span? d.volumeTimeout volumeTimeout
      uploadTimeout := ← span? d.uploadTimeout uploadTimeout }
  | _ => none

end Timings

/-! ## Documents -/

/-- Why there is no configuration. -/
inductive ConfigFault where
  | unreadable (path : String) (cause : IoError)
  | malformed (path : String)
deriving DecidableEq, Repr

def ConfigFault.message : ConfigFault → String
  | .unreadable path cause => s!"cannot read config file {path}: {cause.text}"
  | .malformed path => s!"invalid TOML in {path}: not a configuration"

namespace Config

def partNames : List String := ["target", "tools", "timeouts"]

def part? {α : Type} (read : Toml.Value → Option α) (default : α) (field : Option Toml.Value) :
    Option α :=
  (Toml.Value.given? read field).map (·.getD default)

def ofToml? (v : Toml.Value) : Option Config := do
  match ← v.fields? partNames with
  | [target, tools, timeouts] =>
    return {
      profile := ← part? Profile.ofToml? {} target
      tools := ← part? Tools.ofToml? {} tools
      timings := ← part? Timings.ofToml? {} timeouts }
  | _ => none

def ofFile (path : String) (content : Except IoError Bytes) : Except ConfigFault Config :=
  match content with
  | .error e => .error (.unreadable path e)
  | .ok bytes =>
    match Utf8.decode? bytes with
    | none => .error (.unreadable path .notText)
    | some text =>
      match (Toml.parse? text).bind ofToml? with
      | none => .error (.malformed path)
      | some config => .ok config

def load {σ : Type} (files : Files σ) (path : String) : StateM σ (Except ConfigFault Config) :=
  fun s =>
    let (content, s) := files.read path s
    (ofFile path content, s)

end Config

end BoardRig
