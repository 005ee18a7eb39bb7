/-
Serial ports: a stream of bytes to a device and back.
-/
import BoardRig.Duration
import BoardRig.Error
import BoardRig.Text.Utf8

namespace BoardRig

/-- Which port to open, and how. -/
structure SerialConfig where
  port : String
  baudRate : Nat := 115200
  /-- How long a read waits for the first byte. -/
  timeout : Duration := Duration.ofMillis 100
deriving DecidableEq, Repr

/-- An open port in a world of type `σ`. -/
structure Port (σ : Type) where
  name : String
  /-- How many bytes have arrived and were not read. -/
  waiting : Action σ Nat
  /-- Read at most so many bytes. -/
  read : Nat → StateM σ (Except IoError Bytes)
  /-- Take some of the bytes, and tell how many. -/
  write : Bytes → StateM σ (Except IoError Nat)
  /-- Hand on what was taken. -/
  flush : StateM σ (Except IoError Unit)

/-- A way to open ports in a world of type `σ`. -/
structure Opener (σ : Type) where
  connect : SerialConfig → Action σ (Port σ)

end BoardRig
