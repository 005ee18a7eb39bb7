/-
The storage of a Linux machine: its mount table and two tools.
-/
import BoardRig.Command
import BoardRig.Storage.Listing
import BoardRig.Storage.Locator

namespace BoardRig.StorageSource

/-- The time limit for listing the block devices. -/
def listLimit : Duration := Duration.ofSeconds 5

def mountLimit : Duration := Duration.ofSeconds 10

def listCommand : Invocation where
  program := "lsblk"
  args := ["-J", "-o", "NAME,LABEL,MOUNTPOINT"]
  limit := some listLimit

def mountCommand (d : BlockDevice) : Invocation where
  program := "udisksctl"
  args := ["mount", "-b", d.path]
  limit := some mountLimit

/-- The storage behind a reader of the mount table and a runner of tools. -/
def ofTools {σ : Type} (runner : Runner σ) (mountTable : Action σ String) : StorageSource σ where
  mountTable
  blockDevices := do
    let result ← runner.runChecked listCommand
    Action.ofExcept (BlockDevice.parseListing result.stdout)
  mount d := do
    discard (runner.runChecked (mountCommand d))

end BoardRig.StorageSource
