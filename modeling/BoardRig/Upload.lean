/-
The upload utility, which speaks to the bootloader over a serial port.

It is run with a command line of its own in front, then the port, and then
what is to be done.
-/
import BoardRig.Command

namespace BoardRig

/-- The upload utility and how it is run. -/
structure UploadClient (σ : Type) where
  runner : Runner σ
  /-- The program and its first arguments. -/
  commandLine : List String
  directory : Option String := none
  limit : Duration := Duration.ofSeconds 60

namespace UploadClient

variable {σ : Type}

/-- The command line that builds the utility first and then runs it. -/
def defaultCommandLine : List String :=
  ["cargo", "run", "--release", "-p", "crispy-upload", "--"]

/-- The run that does something at a port. -/
def invocation (c : UploadClient σ) (port : String) (args : List String) : Invocation where
  program := c.commandLine.head?.getD "crispy-upload"
  args := c.commandLine.tail ++ ["--port", port] ++ args
  directory := c.directory
  limit := some c.limit

def run (c : UploadClient σ) (port : String) (args : List String) : Action σ CommandResult :=
  c.runner.run (c.invocation port args)

def status (c : UploadClient σ) (port : String) : Action σ CommandResult :=
  c.run port ["status"]

def upload (c : UploadClient σ) (port file : String) (bank : UInt8) (version : UInt32) :
    Action σ CommandResult :=
  c.run port ["upload", file, "--bank", toString bank.toNat, "--version", toString version.toNat]

/-- Choose the bank that is booted next. -/
def setBank (c : UploadClient σ) (port : String) (bank : UInt8) : Action σ CommandResult :=
  c.run port ["set-bank", toString bank.toNat]

def reboot (c : UploadClient σ) (port : String) : Action σ CommandResult :=
  c.run port ["reboot"]

def wipe (c : UploadClient σ) (port : String) : Action σ CommandResult :=
  c.run port ["wipe"]

end UploadClient

end BoardRig
