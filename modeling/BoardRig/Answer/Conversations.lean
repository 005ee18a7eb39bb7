/-
Talking to firmware over its port, and to the bootloader through the upload
utility.
-/
import BoardRig.Answer.Report
import BoardRig.CommandLine.Values
import BoardRig.Rig
import BoardRig.Serial.Session
import BoardRig.Status

namespace BoardRig.Answer

variable {σ : Type}

def overPort (rig : Rig σ) (port : String) (talk : Session σ → Line σ → Except Failure Report × Line σ) :
    Answer σ := fun s =>
  match rig.opener.connect { port } s with
  | (.error e, s) => (.error ⟨.operation e, ["Failed to open " ++ port]⟩, s)
  | (.ok p, s) =>
    let (outcome, line) := talk ⟨p, rig.clock⟩ ⟨s, []⟩
    (outcome, line.world)

def send (rig : Rig σ) (s : Settings) (port command : String) (settle : Option Nat) : Answer σ :=
  let settle := (settle.map Duration.ofMillis).getD s.timings.serialSettle
  overPort rig port fun session line =>
    match session.sendCommand command settle line with
    | (.error e, line) =>
      (.error ⟨.operation e, [s!"Failed to send '{command}' to {port}"]⟩, line)
    | (.ok reply, line) =>
      (.ok { output := if reply.isEmpty then "" else Report.closedLine reply }, line)

/-- Read until a text appears, and show all that was read. -/
def waitBanner (rig : Rig σ) (s : Settings) (port text : String) (timeout : Decimal.Binary64) :
    Answer σ :=
  Answer.given (CommandLine.secondsOr s.timings.portTimeout (some timeout)) fun timeout =>
    overPort rig port fun session line =>
      match session.waitFor text timeout line with
      | (.error e, line) => (.error ⟨.operation e, []⟩, line)
      | (.ok heard, line) => (.ok { output := Report.closedLine heard }, line)

/-! ## Status of the bootloader -/

def statusJson (port : String) (s : BootloaderStatus) : Json :=
  Json.record [
    ("port", .string port),
    ("status", s.toJson),
    ("update_mode", .bool s.isUpdateMode)]

/-- A status as people read it; a question mark stands for what is missing. -/
def statusSheet (port : String) (s : BootloaderStatus) : Report :=
  Report.sheet "Bootloader Status" [
    "Port:        " ++ port,
    "Version:     " ++ s.version.getD "?",
    "Active bank: " ++ (s.activeBank.map fun b => toString b.toNat).getD "?",
    "Version A:   " ++ (s.versionA.map fun v => toString v.toNat).getD "?",
    "Version B:   " ++ (s.versionB.map fun v => toString v.toNat).getD "?",
    "State:       " ++ s.state.getD "?"]

/-- The status in what the upload utility left. -/
def statusOf (port : String) (result : CommandResult) : Except Failure BootloaderStatus :=
  if result.success then withoutContext (BootloaderStatus.parse result.combined)
  else
    let said := String.ofList (Text.trim result.combined.toList)
    .error ⟨.remark s!"Upload utility status failed on {port}:\n{said}", []⟩

def statusAt (client : UploadClient σ) (json : Bool) (port : String) : Answer σ := fun world =>
  match client.status port world with
  | (.error e, world) => (.error ⟨.operation e, []⟩, world)
  | (.ok result, world) =>
    ((statusOf port result).map fun status =>
      if json then Report.ofJson (statusJson port status) else statusSheet port status, world)

/-- Ask the bootloader for its status, at a port that is given or waited
for. -/
def bootloaderStatus (rig : Rig σ) (s : Settings) (port upload : Option String) (json : Bool) :
    Answer σ :=
  Answer.given (s.uploadClient rig.runner upload) fun client =>
    match port with
    | some port => statusAt client json port
    | none => fun world =>
      match (rig.orchestrator s).waitForBootloader s.timings.portTimeout world with
      | (.error e, world) => (.error ⟨.operation e, ["Bootloader port not found"]⟩, world)
      | (.ok port, world) => statusAt client json port world

end BoardRig.Answer
