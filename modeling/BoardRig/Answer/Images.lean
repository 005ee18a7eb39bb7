/-
Converting and inspecting images.
-/
import BoardRig.Answer.Report
import BoardRig.Rig
import BoardRig.Uf2.Conversion

namespace BoardRig.Answer

variable {σ : Type}

def conversionNote (input output : String) (blocks : Nat) (base family : UInt32) : String :=
  s!"{input} -> {output} ({blocks} blocks, {blocks * Uf2.frameSize} bytes, " ++
    s!"base {Radix.address base.toNat}, family {Radix.address family.toNat})"

/-- Convert a raw image into a UF2 file. -/
def convert (rig : Rig σ) (s : Settings) (input output : String) (base family : Option UInt32) :
    Answer σ :=
  let base := base.getD s.profile.flashBase
  let family := family.getD s.profile.family
  Answer.ofAction ("Failed to convert " ++ input)
    ((Uf2.Encoder.ofFamily family).convert rig.files input output base) fun blocks =>
      Report.note s.quiet (conversionNote input output blocks base family)

def summaryJson (file : String) (p : Profile) (u : Uf2.Summary) : Json :=
  Json.record [
    ("file", .string file),
    ("blocks", Json.nat u.blocks),
    ("family_id", .string (Radix.address u.family.toNat)),
    ("start_addr", .string (Radix.address u.startAddress)),
    ("end_addr", .string (Radix.address u.endAddress)),
    ("payload_bytes", Json.nat u.payloadBytes),
    ("matches_target", .bool (u.family == p.family))]

def summarySheet (file : String) (p : Profile) (u : Uf2.Summary) : Report :=
  let family := Radix.address u.family.toNat
  Report.sheet "UF2 Information" [
    "File:      " ++ file,
    s!"Blocks:    {u.blocks}",
    s!"Payload:   {u.payloadBytes} bytes",
    s!"Range:     {Radix.address u.startAddress}..{Radix.address u.endAddress}",
    "Family:    " ++ family ++
      (if u.family = p.family then " (" ++ p.chip ++ ")" else " (not " ++ p.chip ++ ")")]

def inspect (rig : Rig σ) (s : Settings) (file : String) (json : Bool) : Answer σ :=
  Answer.ofAction ("Failed to read UF2 file " ++ file) (Uf2.Summary.ofPath rig.files file)
    fun u => if json then Report.ofJson (summaryJson file s.profile u)
      else summarySheet file s.profile u

end BoardRig.Answer
