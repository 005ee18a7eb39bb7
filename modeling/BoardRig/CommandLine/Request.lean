/-
The command line of the program: what can be asked for, and how.

Every command accepts the options of the program as well, before or after its
name. The port, the probe tool and the upload utility can also be named by
variables of the environment.
-/
import BoardRig.CommandLine.Reader
import BoardRig.CommandLine.Values
import BoardRig.Settings

namespace BoardRig.CommandLine

/-- What the program is asked to do. -/
inductive Request where
  /-- Convert a raw image into a UF2 file. -/
  | convert (input output : String) (base family : Option UInt32)
  /-- Sum up a UF2 file. -/
  | inspect (file : String) (json : Bool)
  | listPorts (json : Bool)
  /-- Wait for a port with a USB identity. -/
  | findPort (vendor product : Option UInt16) (timeout : Option Decimal.Binary64)
  /-- Wait for a volume with a label. -/
  | findVolume (label : Option String) (timeout : Option Decimal.Binary64)
  /-- Force the update mode of the bootloader. -/
  | updateMode (noWait : Bool)
  /-- Force the mask ROM to offer its volume. -/
  | bootsel (noWait : Bool)
  /-- Copy a UF2 file to the volume of the mask ROM. -/
  | deploy (file : String)
  /-- Tell which state the device is in. -/
  | state (json : Bool)
  /-- Send a command to firmware and show the reply. -/
  | send (port command : String) (settle : Option Nat)
  /-- Read from firmware until a text appears. -/
  | waitBanner (port text : String) (timeout : Decimal.Binary64)
  /-- Ask the bootloader for its status. -/
  | bootloaderStatus (port upload : Option String) (json : Bool)
deriving DecidableEq, Repr

/-- A command line that was understood. -/
structure Arguments where
  verbose : Nat
  flags : Flags
  /-- The configuration to use instead of those in the usual places. -/
  config : Option String
  request : Request
deriving DecidableEq, Repr

/-! ## Values

The checks for the values of options.  A value that passes its check can be read, so
the readers of values below need not report anything. -/

def anyText : Meaning := .value fun _ => none

/-- The path of a file, which cannot be empty. -/
def somePath : Meaning := .value fun text => if text.isEmpty then some "" else none

/-- A number of 32 bits in base sixteen. -/
def someWord : Meaning := .value fun text =>
  match hexWord text with
  | .ok _ => none
  | .error e => some e.message

/-- A number of 16 bits in base sixteen. -/
def someHalf : Meaning := .value fun text =>
  match hexHalf text with
  | .ok _ => none
  | .error e => some e.message

def someSeconds : Meaning := .value fun text =>
  match Decimal.Binary64.read? text.toList with
  | some _ => none
  | none => some (if text.isEmpty then "cannot parse float from empty string" else "invalid float literal")

def someMillis : Meaning := .value fun text =>
  match Radix.read 10 (Nat.pow 2 64) text.toList with
  | .ok _ => none
  | .error e => some e.message

namespace Findings

def text (fs : Findings) (id : String) : String := (fs.value? id).getD ""

def word? (fs : Findings) (id : String) : Option UInt32 :=
  (fs.value? id).bind fun text => (hexWord text).toOption

def half? (fs : Findings) (id : String) : Option UInt16 :=
  (fs.value? id).bind fun text => (hexHalf text).toOption

def seconds? (fs : Findings) (id : String) : Option Decimal.Binary64 :=
  (fs.value? id).bind fun text => Decimal.Binary64.read? text.toList

def millis? (fs : Findings) (id : String) : Option Nat :=
  (fs.value? id).bind fun text => Radix.read? 10 (Nat.pow 2 64) text.toList

end Findings

/-! ## Options and operands

Options that several commands share are defined once. -/

/-- The options that say something about the program or a command. -/
def explainingOptions : List Parameter := [
  { id := "help", about := "Print help", short := some 'h', long := some "help", meaning := .help },
  { id := "version", about := "Print version", short := some 'V', long := some "version",
    meaning := .version }]

def programOptions : List Parameter := [
  { id := "verbose", about := "Verbose output level (-v, -vv for increasing detail)",
    short := some 'v', long := some "verbose", meaning := .tally },
  { id := "quiet", about := "Quiet mode (suppress non-essential output)",
    short := some 'q', long := some "quiet", meaning := .switch },
  { id := "config", about := "Path to a configuration file", valueName := "PATH",
    long := some "config", meaning := somePath },
  { id := "probe", about := "probe-rs executable", valueName := "PROBE",
    long := some "probe", meaning := anyText, inherited := some "CRISPY_PROBE" },
  { id := "chip", about := "Chip name passed to probe-rs", valueName := "CHIP",
    long := some "chip", meaning := anyText }]

def commonOptions : List Parameter := programOptions ++ explainingOptions

def jsonOption : Parameter :=
  { id := "json", about := "Output as JSON", long := some "json", meaning := .switch }

/-- Do not wait for what was forced. -/
def noWaitOption (about : String) : Parameter :=
  { id := "no-wait", about, long := some "no-wait", meaning := .switch }

def timeoutOption : Parameter :=
  { id := "timeout", about := "Timeout in seconds", valueName := "TIMEOUT", short := some 't',
    long := some "timeout", meaning := someSeconds }

def portOption : Parameter :=
  { id := "port", about := "Serial port", valueName := "PORT", short := some 'p',
    long := some "port", meaning := anyText, inherited := some "CRISPY_DEVICE" }

def operand (id valueName about : String) (meaning : Meaning) : Parameter :=
  { id, about, valueName, meaning, required := true }

/-! ## Commands -/

/-- A command: its name, what it is for, its grammar, and what it asks for. -/
structure Command where
  name : String
  about : String
  options : List Parameter := []
  operands : List Parameter := []
  request : Findings → Request

def Command.grammar (c : Command) : Grammar where
  command := some c.name
  options := c.options ++ commonOptions
  operands := c.operands

def commands : List Command := [
  { name := "bin2uf2"
    about := "Convert a raw binary file to UF2"
    options := [
      { id := "base", about := "Base address in hex (default: target flash base)",
        valueName := "BASE_ADDRESS", short := some 'a', long := some "base-address",
        meaning := someWord },
      { id := "family", about := "Family id in hex (default: target family)",
        valueName := "FAMILY", short := some 'f', long := some "family", meaning := someWord }]
    operands := [
      operand "input" "INPUT" "Input binary file" somePath,
      operand "output" "OUTPUT" "Output UF2 file" somePath]
    request := fun fs =>
      .convert (fs.text "input") (fs.text "output") (fs.word? "base") (fs.word? "family") },
  { name := "uf2-info"
    about := "Validate and summarize a UF2 file"
    options := [jsonOption]
    operands := [operand "file" "FILE" "UF2 file" somePath]
    request := fun fs => .inspect (fs.text "file") (fs.has "json") },
  { name := "list-ports"
    about := "List serial ports, tagging crispy devices"
    options := [jsonOption]
    request := fun fs => .listPorts (fs.has "json") },
  { name := "find-port"
    about := "Wait for a USB serial device by VID:PID and print its path"
    options := [
      { id := "vid", about := "Vendor id in hex (default: target vendor)", valueName := "VID",
        long := some "vid", meaning := someHalf },
      { id := "pid", about := "Product id in hex (default: bootloader)", valueName := "PID",
        long := some "pid", meaning := someHalf },
      timeoutOption]
    request := fun fs => .findPort (fs.half? "vid") (fs.half? "pid") (fs.seconds? "timeout") },
  { name := "find-volume"
    about := "Wait for the mass-storage volume and print its mount point"
    options := [
      { id := "label", about := "Volume label (default: target label)", valueName := "LABEL",
        short := some 'l', long := some "label", meaning := anyText },
      timeoutOption]
    request := fun fs => .findVolume (fs.value? "label") (fs.seconds? "timeout") },
  { name := "update-mode"
    about := "Force the bootloader into update mode via the debug probe"
    options := [noWaitOption "Do not wait for the bootloader to enumerate"]
    request := fun fs => .updateMode (fs.has "no-wait") },
  { name := "bootsel"
    about := "Force mask-ROM BOOTSEL mode via the debug probe"
    options := [noWaitOption "Do not wait for the volume to appear"]
    request := fun fs => .bootsel (fs.has "no-wait") },
  { name := "deploy-uf2"
    about := "Force BOOTSEL and copy a UF2 file to the volume"
    operands := [operand "file" "FILE" "UF2 file" somePath]
    request := fun fs => .deploy (fs.text "file") },
  { name := "state"
    about := "Show which state the device appears to be in"
    options := [jsonOption]
    request := fun fs => .state (fs.has "json") },
  { name := "send"
    about := "Send a text command over serial and print the reply"
    options := [
      { portOption with required := true },
      { id := "settle", about := "Wait before reading the reply, in milliseconds",
        valueName := "SETTLE_MS", long := some "settle-ms", meaning := someMillis }]
    operands := [operand "command" "COMMAND" "Command text (CR LF appended)" anyText]
    request := fun fs => .send (fs.text "port") (fs.text "command") (fs.millis? "settle") },
  { name := "wait-banner"
    about := "Read a serial port until some text appears"
    options := [
      { portOption with required := true },
      { timeoutOption with fallback := some "10" }]
    operands := [operand "text" "TEXT" "Text to wait for" anyText]
    request := fun fs =>
      .waitBanner (fs.text "port") (fs.text "text") ((fs.seconds? "timeout").getD .nan) },
  { name := "bootloader-status"
    about := "Query the bootloader through the upload utility"
    options := [
      { portOption with about := "Bootloader port (found by USB identity if omitted)" },
      { id := "upload", about := "Upload utility command line", valueName := "UPLOAD",
        long := some "upload", meaning := anyText, inherited := some "CRISPY_UPLOAD" },
      jsonOption]
    request := fun fs =>
      .bootloaderStatus (fs.value? "port") (fs.value? "upload") (fs.has "json") }]

def helpCommand : String := "help"

/-- The grammar of the program up to the name of a command. -/
def programGrammar : Grammar where
  options := commonOptions
  commands := commands.map (·.name) ++ [helpCommand]

def helpOn : List String → Refusal
  | [] => .help none
  | name :: rest =>
    if programGrammar.commands.contains name then
      match rest with
      | [] => .help (some name)
      | other :: _ => .unknownCommand other
    else .unknownCommand name

/-- Understand a command line. What belongs to the command is checked before
what stands in front of it. -/
def parse (environment : String → Option String) (arguments : List String) :
    Except Refusal Arguments := do
  let (progress, rest) ← programGrammar.readArguments arguments {}
  match rest with
  | none =>
    let found ← programGrammar.finish environment progress
    .error (if found.isEmpty then .nothingGiven else .missingCommand)
  | some (name, arguments) =>
    match commands.find? (·.name == name) with
    | none => .error (helpOn arguments)
    | some command =>
      let inner ← command.grammar.readAll environment arguments
      let found := Findings.merge (← programGrammar.finish environment progress) inner
      return {
        verbose := found.count "verbose"
        flags := ⟨found.has "quiet", found.value? "probe", found.value? "chip"⟩
        config := found.value? "config"
        request := command.request found }

end BoardRig.CommandLine
