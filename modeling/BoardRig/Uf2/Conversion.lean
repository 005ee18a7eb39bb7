/-
UF2 files on disk: converting a raw image, and summing up a file.

An image without bytes is refused before the output is touched.
-/
import BoardRig.FileSystem.Access
import BoardRig.Uf2.Encoder
import BoardRig.Uf2.Summary

namespace BoardRig.Uf2

variable {σ : Type}

/-- Convert the raw image in one file into a UF2 file in another; yields the
number of blocks. -/
def Encoder.convert (e : Encoder) (files : Files σ) (input output : String) (base : UInt32) :
    Action σ Nat := do
  let image : Image := ⟨← Action.ofIo (files.read input), base⟩
  if image.data.isEmpty then throw (Fault.emptyInput input).error
  let file ← Action.ofIo (files.create output)
  let (count, frames) := e.writeTo image []
  Action.ofIo (files.append file frames)
  return count

def Summary.ofPath (files : Files σ) (path : String) : Action σ Summary := do
  let file ← Action.ofIo (files.read path)
  Action.ofExcept (checked (Summary.ofFile file))

end BoardRig.Uf2
