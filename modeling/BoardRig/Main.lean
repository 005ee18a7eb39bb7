/-
The command line of the program.

What a command line speaks of is read into a machine in memory: the files it
names, the configurations, the mount table, the identities of the terminals
and the scripts on the search path. The program runs on that machine, and
the files that it made or changed are written back.
-/
import BoardRig.FileSystem.Difference
import BoardRig.Program
import BoardRig.Simulation.Machine

namespace BoardRig.Main

open Simulation

/-! ## What is read -/

/-- The variables of the environment that have a meaning here. -/
def variableNames : List String :=
  ["HOME", "PATH", "PWD", "XDG_CONFIG_HOME", "CRISPY_DEVICE", "CRISPY_PROBE", "CRISPY_UPLOAD"]

/-- The values of an argument: itself, and what follows an equals sign. -/
def valuesOf (argument : String) : List String :=
  [argument, String.intercalate "=" ((argument.splitOn "=").drop 1)].filter (!·.isEmpty)

def terminals : List String :=
  (List.range 32).map fun n => "ttyACM" ++ Nat.repr n

/-- The files that say which device is behind a terminal. -/
def identityFiles (terminal : String) : List String :=
  ["idVendor", "idProduct"].map (s!"/sys/class/tty/{terminal}/device/../{·}")

/-- The files that are read whatever they hold. -/
def filePaths (environment : String → Option String) (arguments : List String) : List String :=
  arguments.flatMap valuesOf ++ [Program.localConfig] ++ (Program.userConfig? environment).toList

/-- The places of the programs that may be asked for. -/
def programPaths (environment : String → Option String) (arguments : List String) :
    List String :=
  let names := arguments.flatMap valuesOf ++ Probe.defaultProgram ::
    UploadClient.defaultCommandLine.take 1 ++ ["lsblk", "udisksctl"]
  (((environment "PATH").getD "").splitOn ":").flatMap fun directory =>
    names.map (Path.join directory)

/-! ## Reading and writing -/

/-- Whether a file says which program runs it. -/
def isScript (content : Bytes) : Bool :=
  (Utf8.encodeString "#!").isPrefixOf content

def readFile? (path : String) : IO (Option Bytes) := do
  try
    let content ← IO.FS.readBinFile path
    return some content.toList
  catch _ => return none

/-- A file system with the bytes of a file that can be read and is wanted. -/
def withFile (directory : String) (wanted : Bytes → Bool) (executable : Bool)
    (files : FileSystem) (path : String) : IO FileSystem := do
  let path := Files.within directory path
  let some content ← readFile? path | return files
  if wanted content then
    return (files.install path content executable).toOption.getD files
  else return files

/-- A file system with a terminal whose device is known. -/
def withTerminal (files : FileSystem) (terminal : String) : IO FileSystem := do
  let known ← (identityFiles terminal).filterMapM fun path => do
    return (← readFile? path).map fun content => (path, content)
  if known.isEmpty then return files
  let place := "/sys/class/tty/" ++ terminal
  let files := (files.makeDirectories (place ++ "/device")).toOption.getD files
  let named := known.map fun (path, content) =>
    (Path.join place ((Path.fileName? path).getD ""), content)
  return (("/dev/" ++ terminal, []) :: named).foldl
    (fun files (path, content) => (files.install path content false).toOption.getD files) files

/-- The machine that a command line speaks of. -/
def machine (directory : String) (environment : List (String × String))
    (arguments : List String) : IO Machine := do
  let lookup := (environment.lookup · : String → Option String)
  let files := Machine.filesWith directory
  let files ← ["/proc/mounts"].foldlM (withFile "/" (fun _ => true) false) files
  let mounts := Mount.parseTable ((files.readText FileSystem.mountTablePath).toOption.getD "")
  let files := mounts.foldl
    (fun files m => (files.makeDirectories m.mountPoint).toOption.getD files) files
  let files ← (filePaths lookup arguments).foldlM
    (withFile directory (fun _ => true) false) files
  let files ← (programPaths lookup arguments).foldlM
    (withFile directory isScript true) files
  let files ← terminals.foldlM withTerminal files
  return { files, environment }

def writeBack (files before : FileSystem) : IO Unit :=
  (files.changesSince before).forM fun (path, content) =>
    IO.FS.writeBinFile path (ByteArray.mk content.toArray)

/-- Run the program with some arguments, and give its exit code. -/
def run (arguments : List String) : IO UInt32 := do
  let environment ← variableNames.filterMapM fun name => do
    return (← IO.getEnv name).map (name, ·)
  let directory := (environment.lookup "PWD").getD "/"
  let before ← machine directory environment arguments
  let (outcome, after) :=
    Program.run (Machine.rig directory) (environment.lookup ·) arguments before
  writeBack after.files before.files
  IO.print outcome.output
  IO.eprint outcome.notes
  return UInt32.ofNat outcome.code

end BoardRig.Main

def main (arguments : List String) : IO UInt32 :=
  BoardRig.Main.run arguments
