/-
Serial ports that answer what is written to them.

A port replies to a trigger once everything written so far contains it. It
gives out at most so many bytes with each read, and a read of an empty port
times out.
-/
import BoardRig.Serial.Port
import BoardRig.Text.Blank

namespace BoardRig.Simulation

/-- A reply that waits for its trigger. -/
structure Reply where
  trigger : String
  response : Bytes
  given : Bool := false
deriving DecidableEq, Repr

/-- A port with what was written to it and what can be read from it. -/
structure SimulatedPort where
  chunk : Option Nat := none
  received : Bytes := []
  written : Bytes := []
  replies : List Reply := []
deriving DecidableEq, Repr

namespace SimulatedPort

def feed (p : SimulatedPort) (bytes : Bytes) : SimulatedPort :=
  { p with received := p.received ++ bytes }

def replyTo (p : SimulatedPort) (trigger response : String) : SimulatedPort :=
  { p with replies := p.replies ++ [⟨trigger, Utf8.encodeString response, false⟩] }

def read (p : SimulatedPort) (n : Nat) : Except IoError Bytes × SimulatedPort :=
  if p.received.isEmpty then (.error ⟨.timedOut, "timed out"⟩, p)
  else
    let n := min n (p.chunk.getD n)
    (.ok (p.received.take n), { p with received := p.received.drop n })

def isDue (written : List Char) (r : Reply) : Bool :=
  !r.given && Text.occursIn r.trigger.toList written

/-- Take all the bytes, and give the replies that are due. -/
def write (p : SimulatedPort) (bytes : Bytes) : SimulatedPort :=
  let written := p.written ++ bytes
  let text := Utf8.decodeLossy written
  let due := p.replies.filter (isDue text)
  { p with
    written
    replies := p.replies.map fun r => if isDue text r then { r with given := true } else r
    received := p.received ++ due.flatMap (·.response) }

end SimulatedPort

/-- The ports there are, and the names that were opened. -/
structure PortBank where
  ports : List (String × SimulatedPort) := []
  opened : List String := []
deriving DecidableEq, Repr

namespace PortBank

def find? (bank : PortBank) (name : String) : Option SimulatedPort :=
  bank.ports.lookup name

def set (bank : PortBank) (name : String) (port : SimulatedPort) : PortBank :=
  { bank with ports := (name, port) :: bank.ports.filter (·.1 != name) }

variable {σ : Type}

def acting {α : Type} (get : σ → PortBank) (put : PortBank → σ → σ) (name : String)
    (act : SimulatedPort → α × SimulatedPort) : StateM σ α := fun s =>
  let (a, port) := act (((get s).find? name).getD {})
  (a, put ((get s).set name port) s)

def port (get : σ → PortBank) (put : PortBank → σ → σ) (name : String) : Port σ where
  name
  waiting := Action.total (acting get put name fun p => (p.received.length, p))
  read n := acting get put name (·.read n)
  write bytes := acting get put name fun p => (.ok bytes.length, p.write bytes)
  flush := acting get put name fun p => (.ok (), p)

def opener (get : σ → PortBank) (put : PortBank → σ → σ) : Opener σ where
  connect config := fun s =>
    let bank := { get s with opened := (get s).opened ++ [config.port] }
    let s := put bank s
    match bank.find? config.port with
    | some _ => (.ok (port get put config.port), s)
    | none => (.error (.deviceNotFound config.port), s)

end PortBank

end BoardRig.Simulation
