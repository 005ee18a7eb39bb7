/-
Finding the serial port of a device by its USB identity.

A pass lists the candidates and takes the first one whose identity can be
read and is the wanted one. Candidates that cannot be read yet are skipped.
Waiting for a device repeats the pass.
-/
import BoardRig.Poll
import BoardRig.Usb.Identity

namespace BoardRig

/-- A list of candidate ports and their identities in a world of type `σ`. -/
structure UsbSource (σ : Type) where
  /-- The ports that may be the device, in a stable order. -/
  candidates : StateM σ (List String)
  /-- The identity of a port, once it can be read. -/
  identityOf : String → StateM σ (Except IoError UsbIdentity)

/-- A search for devices in regular passes. -/
structure UsbLocator (σ : Type) where
  source : UsbSource σ
  clock : Clock σ
  interval : Duration := Duration.ofMillis 500

namespace UsbLocator

variable {σ : Type}

def firstWith (l : UsbLocator σ) (identity : UsbIdentity) : List String → StateM σ (Option String)
  | [] => pure none
  | port :: rest => do
    match ← l.source.identityOf port with
    | .ok found => if found = identity then return some port else firstWith l identity rest
    | .error _ => firstWith l identity rest

/-- One pass, without waiting. -/
def findNow (l : UsbLocator σ) (identity : UsbIdentity) : StateM σ (Option String) := do
  firstWith l identity (← l.source.candidates)

def notFound (identity : UsbIdentity) (timeout : Duration) : Error :=
  .deviceNotFound s!"USB device {identity.text} not found within {timeout.tenths}s"

def find (l : UsbLocator σ) (identity : UsbIdentity) (timeout : Duration) : Action σ String :=
  (Poll.wait l.clock l.interval timeout s!"USB device {identity.text}"
    (Action.total (l.findNow identity))).onTimeout (notFound identity timeout)

end UsbLocator

end BoardRig
