/-
The settings of a run: what flags and configuration say together.

A flag wins over the configuration, and the configuration over the defaults.
-/
import BoardRig.Config
import BoardRig.Failure
import BoardRig.Probe
import BoardRig.Upload

namespace BoardRig

/-- The flags that bear on the settings. -/
structure Flags where
  /-- Leave out what is not asked for. -/
  quiet : Bool := false
  /-- The tool that drives the debug probe. -/
  probe : Option String := none
  /-- The chip as the probe knows it. -/
  chip : Option String := none
deriving DecidableEq, Repr

/-- What a run works with. -/
structure Settings where
  quiet : Bool
  profile : Profile
  timings : Timings
  probeProgram : String
  uploadCommandLine : List String
  projectRoot : Option String
deriving DecidableEq, Repr

namespace Settings

/-- The settings for some flags under a configuration. -/
def resolve (flags : Flags) (config : Config) : Settings where
  quiet := flags.quiet
  profile := { config.profile with chip := flags.chip.getD config.profile.chip }
  timings := config.timings
  probeProgram := (flags.probe.or config.tools.probe).getD Probe.defaultProgram
  uploadCommandLine := config.tools.upload.getD UploadClient.defaultCommandLine
  projectRoot := config.tools.projectRoot

/-- The command line of the upload utility, where one given on the spot wins.
It is cut into words at its blanks. -/
def uploadWords (s : Settings) : (given : Option String) → List String
  | some line => (Text.words line.toList).map String.ofList
  | none => s.uploadCommandLine

/-- The upload utility, unless its command line has no words. -/
def uploadClient {σ : Type} (s : Settings) (runner : Runner σ) (given : Option String) :
    Except Cause (UploadClient σ) :=
  let commandLine := s.uploadWords given
  if commandLine.isEmpty then .error (.usage "upload utility command line is empty")
  else .ok {
    runner, commandLine
    directory := s.projectRoot
    limit := s.timings.uploadTimeout }

end Settings

end BoardRig
