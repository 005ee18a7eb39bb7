/-
The program as a whole: from its command line to what it leaves.

The command line is understood first, then the configuration is found, and
then the request is answered. A configuration that is asked for by its path
must be there and be right; one that lies in a usual place is left aside if
it is not.
-/
import BoardRig.Answer.Conversations
import BoardRig.Answer.Images
import BoardRig.Answer.Recoveries
import BoardRig.Answer.Searches
import BoardRig.CommandLine.Help

namespace BoardRig

/-- What a run of the program leaves. -/
structure Outcome where
  code : Nat
  output : String
  notes : String
deriving DecidableEq, Repr

namespace Program

variable {σ : Type}

def name : String := "crispy-harness"

def version : String := "0.3.0"

/-! ## Configuration -/

/-- The configuration of the directory that the program runs in. -/
def localConfig : String := "crispy-harness.toml"

/-- The configuration of the user: in the directory for configurations, which
an absolute path in the environment names. -/
def userConfig? (environment : String → Option String) : Option String :=
  let base := ((environment "XDG_CONFIG_HOME").filter Path.isAbsolute).or
    (((environment "HOME").filter (!·.isEmpty)).map (Path.join · ".config"))
  base.map fun base => Path.join (Path.join base name) "config.toml"

/-- The configuration at a path, or the defaults if there is none. -/
def configOrDefault (rig : Rig σ) (path : String) : StateM σ Config := fun s =>
  match Config.load rig.files path s with
  | (.ok config, s) => (config, s)
  | (.error _, s) => ({}, s)

/-- The configuration in the first usual place that has one. -/
def usualConfig (rig : Rig σ) (environment : String → Option String) : StateM σ Config := fun s =>
  if rig.exists? localConfig s then configOrDefault rig localConfig s
  else
    match userConfig? environment with
    | some path => if rig.exists? path s then configOrDefault rig path s else ({}, s)
    | none => ({}, s)

/-- The configuration that a command line asks for. -/
def config (rig : Rig σ) (environment : String → Option String) :
    Option String → StateM σ (Except ConfigFault Config)
  | some path => Config.load rig.files path
  | none => fun s =>
    let (config, s) := usualConfig rig environment s
    (.ok config, s)

/-! ## Requests -/

def answer (rig : Rig σ) (s : Settings) : CommandLine.Request → Answer σ
  | .convert input output base family => Answer.convert rig s input output base family
  | .inspect file json => Answer.inspect rig s file json
  | .listPorts json => Answer.listPorts rig s json
  | .findPort vendor product timeout => Answer.findPort rig s vendor product timeout
  | .findVolume label timeout => Answer.findVolume rig s label timeout
  | .updateMode noWait => Answer.updateMode rig s noWait
  | .bootsel noWait => Answer.bootsel rig s noWait
  | .deploy file => Answer.deploy rig s file
  | .state json => Answer.state rig s json
  | .send port command settle => Answer.send rig s port command settle
  | .waitBanner port text timeout => Answer.waitBanner rig s port text timeout
  | .bootloaderStatus port upload json => Answer.bootloaderStatus rig s port upload json

def ofFailure (f : Failure) : Outcome where
  code := f.exitCode
  output := ""
  notes := "Error: " ++ f.text ++ "\n"

def carryOut (rig : Rig σ) (environment : String → Option String)
    (arguments : CommandLine.Arguments) : StateM σ Outcome := fun s =>
  match config rig environment arguments.config s with
  | (.error fault, s) => (ofFailure ⟨.config fault.message, []⟩, s)
  | (.ok config, s) =>
    match answer rig (Settings.resolve arguments.flags config) arguments.request s with
    | (.error f, s) => (ofFailure f, s)
    | (.ok report, s) => (⟨0, report.output, report.notes⟩, s)

/-! ## Command lines that are not carried out -/

def about : String := "Command-line front end for crispy-bootloader hardware test orchestration"

/-- What a command line that was not carried out leaves. What was asked for
is output; a reason goes beside it, and an empty command line is answered
with the page on the program. -/
def ofRefusal (environment : String → Option String) (r : CommandLine.Refusal) : Outcome :=
  match r with
  | .help command => ⟨0, (CommandLine.page name about environment command).text, ""⟩
  | .version command =>
    ⟨0, (command.elim name fun c => name ++ "-" ++ c) ++ " " ++ version ++ "\n", ""⟩
  | .nothingGiven => ⟨r.exitCode, "", (CommandLine.page name about environment none).text⟩
  | r => ⟨r.exitCode, "",
      "error: " ++ r.message ++ "\n\nUsage: " ++ CommandLine.programUsage name ++ "\n"⟩

def run (rig : Rig σ) (environment : String → Option String) (arguments : List String) :
    StateM σ Outcome :=
  match CommandLine.parse environment arguments with
  | .error refusal => pure (ofRefusal environment refusal)
  | .ok arguments => carryOut rig environment arguments

end Program

end BoardRig
