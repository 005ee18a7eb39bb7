/-
A machine in memory: files, a clock, and a shell that runs scripts.

A program is a script, or it comes with the machine. It runs to its end at
once, and the clock of the machine moves by the time it took; with a time
limit it is stopped when the limit is reached. No serial port can be opened:
what a path leads to is no terminal.
-/
import BoardRig.FileSystem.Usual
import BoardRig.Rig
import BoardRig.Shell.Interpreter
import BoardRig.Storage.Tools
import BoardRig.Usb.Sysfs

namespace BoardRig.Simulation

/-- A machine in memory. -/
structure Machine where
  files : FileSystem
  time : Duration := 0
  /-- The variables that every program sees. -/
  environment : List (String × String) := []

namespace Machine

open Shell

def clock : Clock Machine where
  now m := m.time
  sleep d m := { m with time := m.time + d }

/-- The files as a program in a directory reaches them. -/
def fileAccess (directory : String) : Files Machine :=
  Files.ofFileSystem (·.files) (fun files m => { m with files }) directory

/-! ## Programs -/

/-- The numbers of the pipes that take what a program writes. -/
def outputPipe : Nat := 1
def errorPipe : Nat := 2

/-- The state in which a program begins: it reads from nowhere, and what it
writes is taken by two pipes. -/
def processOf (m : Machine) (directory : String) (i : Invocation) : State :=
  let null := (m.files.find "/dev/null").toOption.getD FileSystem.root
  let kernel : Kernel := {
    files := m.files
    time := m.time
    deadline := i.limit.map (m.time + ·)
    openFiles := [
      (0, { target := .node null, reads := true }),
      (1, { target := .pipe outputPipe, writes := true }),
      (2, { target := .pipe errorPipe, writes := true })]
    pipes := [(outputPipe, {}), (errorPipe, {})] }
  let start : State := {
    toKernel := kernel
    directory
    descriptors := [(0, 0), (1, 1), (2, 2)] }
  start.withEnvironment (m.environment.map fun (name, value) => (name, Octets.ofString value))

/-- What a program does with its arguments, unless it cannot be started. -/
def programOf (m : Machine) (directory : String) (i : Invocation) :
    Except IoError (Run (Except IoError Nat)) := do
  let p := processOf m directory i
  if (i.program :: i.args).any fun text => text.toList.contains '\x00' then throw .nulInArgument
  if i.program.isEmpty then throw .noSuchProgram
  let path ← p.findProgram p.searchPath (Octets.ofString i.program)
  return State.execute State.patience path ((i.program :: i.args).map Octets.ofString)

def writtenInto (pipe : Nat) (p : State) : String :=
  Octets.text ((p.written pipe).flatMap (·.octets))

/-- What a program left when it ended. -/
def resultOf (success : Bool) (p : State) : CommandResult where
  success
  stdout := writtenInto outputPipe p
  stderr := writtenInto errorPipe p

/-- The error for a program that was stopped. -/
def overdue (i : Invocation) : Error :=
  .timeout s!"`{i.text}` did not finish within {(i.limit.getD 0).tenths}s"

def runProgram (directory : String) (i : Invocation) : Action Machine CommandResult := fun m =>
  let home := (i.directory.map (Files.within directory)).getD directory
  match m.files.find (if home.isEmpty then home else Path.join home ".") with
  | .error e => (.error (.io e), m)
  | .ok _ =>
    match programOf m home i with
    | .error e => (.error (.io e), m)
    | .ok act =>
      let (outcome, p) := act (processOf m home i)
      let left := { m with files := p.files, time := p.time }
      let joined : Machine × Bool :=
        match p.released? outputPipe, p.released? errorPipe with
        | some a, some b => ({ left with time := max p.time (max a b) }, true)
        | _, _ => (left, false)
      let finished (success : Bool) : Except Error CommandResult × Machine :=
        if joined.2 then (.ok (resultOf success p), joined.1) else (.error .unending, left)
      match outcome with
      | .ok (.ok status) | .error (.exit status) | .error (.failed status) =>
        finished (status % 256 = 0)
      | .ok (.error e) => (.error (.io e), m)
      | .error (.return _) | .error (.break _) | .error (.continue _) => finished true
      | .error (.killed _) => finished false
      | .error .late => (.error (overdue i), left)
      | .error .held | .error .starved | .error .exhausted => (.error .unending, left)

/-- The programs of the machine, run from a directory on. -/
def runner (directory : String) : Runner Machine where
  run := runProgram directory

/-! ## Devices -/

/-- The failure to open what a path leads to as a port. -/
def portFailure (fs : FileSystem) (path : String) : String :=
  match fs.find path with
  | .error e => meaning e
  | .ok id =>
    match fs.content? id with
    | some (.directory _) => meaning .isADirectory
    | some (.device .terminal) => meaning .noSuchDevice
    | _ => "Not a typewriter"

def opener (directory : String) : Opener Machine where
  connect config := fun m =>
    (.error (.serial (portFailure m.files (Files.within directory config.port))), m)

def mountTable : Action Machine String := fun m =>
  match m.files.readText FileSystem.mountTablePath with
  | .ok text => (.ok text, m)
  | .error e => (.error (.io e), m)

/-- The means of a program that runs in a directory. -/
def rig (directory : String) : Rig Machine where
  runner := runner directory
  files := fileAccess directory
  exists? path m := m.files.exists? (Files.within directory path)
  isFile path m := m.files.isFile (Files.within directory path)
  usb := SysfsLayout.source {} (·.files)
  storage := StorageSource.ofTools (runner directory) mountTable
  opener := opener directory
  clock
  ports _ := []

/-! ## A machine to begin with -/

/-- The files of a machine without devices, and with one more directory. -/
def filesWith (directory : String) : FileSystem :=
  (FileSystem.usual.makeDirectories directory).toOption.getD FileSystem.usual

/-- A machine of the superuser without devices, and with one more directory. -/
def plain (directory : String) : Machine where
  files := filesWith directory
  environment := [("HOME", "/root"), ("PATH", Octets.text State.usualSearchPath)]

end Machine

end BoardRig.Simulation
