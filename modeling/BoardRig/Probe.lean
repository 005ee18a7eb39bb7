/-
The debug probe, driven through its command line tool.

Every operation is one run of the tool and ends in a result; a run that
could not be started, or took too long, is a failed one with that reason.
Bytes are handed over in a scratch file, which is gone when the operation
ends.
-/
import BoardRig.Command
import BoardRig.FileSystem.Access

namespace BoardRig

/-- The debug probe for one chip. -/
structure Probe (σ : Type) where
  runner : Runner σ
  files : Files σ
  chip : String
  /-- The tool that drives the probe. -/
  program : String := "probe-rs"

namespace Probe

variable {σ : Type}

/-- The tool that drives the probe unless another one is named. -/
def defaultProgram : String := "probe-rs"

/-- The time limit for one run of the tool. -/
def limit : Duration := Duration.ofSeconds 120

def subcommand (p : Probe σ) (name : String) (args : List String) : Invocation where
  program := p.program
  args := [name, "--chip", p.chip] ++ args
  limit := some limit

/-- Run the tool; an error of the runner becomes a failed result. -/
def execute (p : Probe σ) (i : Invocation) : StateM σ CommandResult := fun s =>
  match p.runner.run i s with
  | (.ok result, s) => (result, s)
  | (.error e, s) => (.failed e.message, s)

/-! ## Operations

An operation is given as arguments of the tool, and bytes as a file that it reads. -/

def eraseChip (p : Probe σ) : StateM σ CommandResult :=
  p.execute (p.subcommand "erase" [])

/-- Write a linked program into flash. -/
def downloadElf (p : Probe σ) (elf : String) : StateM σ CommandResult :=
  p.execute (p.subcommand "download" [elf])

/-- The command that writes the bytes of a file to an address. -/
def downloadCommand (p : Probe σ) (address : UInt32) (path : String) : Invocation :=
  p.subcommand "download"
    ["--binary-format", "bin", "--base-address", Radix.argument address.toNat, path]

def programBinary (p : Probe σ) (address : UInt32) (data : Bytes) : StateM σ CommandResult := do
  match ← p.files.scratch data with
  | .error e => return .failed ("cannot write scratch file: " ++ e.text)
  | .ok path =>
    let result ← p.execute (p.downloadCommand address path)
    p.files.discard path
    return result

/-- Write `length` copies of a byte to an address. -/
def fill (p : Probe σ) (address : UInt32) (length : Nat) (byte : UInt8) : StateM σ CommandResult :=
  p.programBinary address (List.replicate length byte)

def reset (p : Probe σ) : StateM σ CommandResult :=
  p.execute (p.subcommand "reset" [])

def writeWord (p : Probe σ) (address value : UInt32) : StateM σ CommandResult :=
  p.execute (p.subcommand "write" ["b32", Radix.argument address.toNat, Radix.argument value.toNat])

/-! ## Reading words

The tool shows words among other texts, so the first token that can be one counts. -/

/-- A text without one mark of base sixteen at its front. -/
def withoutMark : List Char → List Char
  | '0' :: 'x' :: cs => cs
  | '0' :: 'X' :: cs => cs
  | cs => cs

/-- The word that a token of the output shows: one to eight bytes of digits
behind an optional mark, with commas behind them. -/
def tokenWord? (token : List Char) : Option UInt32 :=
  let digits := withoutMark (Text.dropEndWhile (· == ',') token)
  if digits.isEmpty || 8 < Utf8.size digits then none
  else (Radix.read? 16 (Nat.pow 2 32) digits).map UInt32.ofNat

def firstWord? (output : String) : Option UInt32 :=
  (Text.words output.toList).findSome? tokenWord?

/-- Read a word of memory; there is none if the run failed or showed none. -/
def readWord (p : Probe σ) (address : UInt32) : StateM σ (CommandResult × Option UInt32) := do
  let result ← p.execute (p.subcommand "read" ["b32", Radix.argument address.toNat, "1"])
  return (result, if result.success then firstWord? result.stdout else none)

end Probe

end BoardRig
