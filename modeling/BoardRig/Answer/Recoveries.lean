/-
Forcing the device into a state, and telling which one it is in.
-/
import BoardRig.Answer.Report
import BoardRig.Rig

namespace BoardRig.Answer

variable {σ : Type}

/-- Go on with another answer, if the first one is no failure; its report
comes first. -/
def thenAnswer (first next : Answer σ) : Answer σ := fun s =>
  match first s with
  | (.error f, s) => (.error f, s)
  | (.ok report, s) =>
    match next s with
    | (.ok more, s) => (.ok (report.append more), s)
    | (.error f, s) => (.error f, s)

/-- Force the update mode of the bootloader, and wait for its port unless
that is not wanted. -/
def updateMode (rig : Rig σ) (s : Settings) (noWait : Bool) : Answer σ :=
  let o := rig.orchestrator s
  let forced := Answer.ofAction "Failed to enter update mode" o.enterUpdateMode fun _ =>
    if noWait then Report.note s.quiet "Reset issued" else {}
  if noWait then forced
  else
    thenAnswer forced <|
      Answer.ofAction "Bootloader did not enumerate after reset"
        (o.waitForBootloader s.timings.portTimeout) fun port =>
          (Report.note s.quiet "Bootloader in update mode").append (Report.result port)

/-- Force the mask ROM to offer its volume, and wait for it unless that is
not wanted. -/
def bootsel (rig : Rig σ) (s : Settings) (noWait : Bool) : Answer σ :=
  let o := rig.orchestrator s
  if noWait then
    Answer.ofAction "Failed to force BOOTSEL" o.forceBootsel fun _ =>
      Report.note s.quiet "Stage 2 invalidated, reset issued"
  else
    Answer.ofAction "Failed to reach mass-storage mode" o.enterMassStorage fun volume =>
      (Report.note s.quiet "Mass-storage mode").append (Report.result volume)

/-- Copy a UF2 file to the volume of the mask ROM. A path that leads to no
file is refused before the device is touched. -/
def deploy (rig : Rig σ) (s : Settings) (file : String) : Answer σ := fun world =>
  if rig.isFile file world then
    Answer.ofAction ("Failed to deploy " ++ file) ((rig.orchestrator s).deployFile file)
      (fun path => Report.note s.quiet ("Copied to " ++ path ++ ", device rebooted")) world
  else Answer.refusal (.remark ("UF2 file not found: " ++ file)) world

def state (rig : Rig σ) (s : Settings) (json : Bool) : Answer σ := fun world =>
  let (state, world) := (rig.orchestrator s).observe world
  (.ok (if json then Report.ofJson state.toJson else Report.result state.text), world)

end BoardRig.Answer
