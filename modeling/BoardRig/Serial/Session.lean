/-
A conversation over a serial port.

A session keeps the bytes that were read and do not make up a character yet.
A command is a line of text that ends in carriage return and line feed. What
comes back is read until the port has nothing more, or until an expected text
has appeared. A read that waits in vain counts as one that brings nothing.
-/
import BoardRig.Poll
import BoardRig.Serial.Port
import BoardRig.Text.Blank

namespace BoardRig

/-- The world with the bytes of a session that are no character yet. -/
structure Line (σ : Type) where
  world : σ
  pending : Bytes

/-- A conversation over an open port. -/
structure Session (σ : Type) where
  port : Port σ
  clock : Clock σ

namespace Session

variable {σ α : Type}

/-- The most bytes that one read asks for. -/
def chunkSize : Nat := 1024

/-- The pause between reads while a text is awaited. -/
def readInterval : Duration := Duration.ofMillis 20

def onWorld (act : Action σ α) : Action (Line σ) α := fun line =>
  match act line.world with
  | (outcome, world) => (outcome, { line with world })

def onPort (act : StateM σ (Except IoError α)) : Action σ α := fun s =>
  match act s with
  | (.ok a, s) => (.ok a, s)
  | (.error e, s) => (.error (.io e), s)

/-! ## Writing

A port may take less than it is handed, so writing is a loop; the flush comes once,
behind the end of the command. -/

/-- Hand bytes to the port, and go on with those that it did not take. An
attempt that was interrupted is made again, and one that takes nothing is a
failure. -/
def writeStep (port : Port σ) : Bytes → Action σ (Bytes ⊕ Unit)
  | [] => pure (.inr ())
  | bytes => fun s =>
    match port.write bytes s with
    | (.ok 0, s) => (.error (.io .writeZero), s)
    | (.ok n, s) => (.ok (.inl (bytes.drop n)), s)
    | (.error e, s) =>
      if e.kind = .interrupted then (.ok (.inl bytes), s) else (.error (.io e), s)

def writeAll (port : Port σ) : Bytes → Action σ Unit :=
  Action.loop (writeStep port)

def lineEnd : Bytes := [13, 10]

def writeLine (session : Session σ) (command : String) : Action σ Unit := do
  writeAll session.port (Utf8.encodeString command)
  writeAll session.port lineEnd
  onPort session.port.flush

/-! ## Reading

Reads go on until one brings nothing.  A character may be cut by the end of a read,
and then its bytes are kept for the next one. -/

/-- Whether a read failed only because nothing came. -/
def isSilence (e : IoError) : Bool :=
  e.kind == .timedOut || e.kind == .wouldBlock

/-- How many bytes a read asks for when so many are waiting. -/
def askFor (waiting : Nat) : Nat :=
  min (max waiting 1) chunkSize

/-- Read once and keep the bytes; yields how many there were. -/
def receive (session : Session σ) : Action (Line σ) Nat := fun line =>
  match session.port.waiting line.world with
  | (.error e, world) => (.error e, { line with world })
  | (.ok waiting, world) =>
    match session.port.read (askFor waiting) world with
    | (.ok bytes, world) => (.ok bytes.length, ⟨world, line.pending ++ bytes⟩)
    | (.error e, world) =>
      if isSilence e then (.ok 0, { line with world }) else (.error (.io e), { line with world })

/-- Take the text out of what was kept. -/
def takeText : Action (Line σ) String := fun line =>
  let (text, pending) := Utf8.drain line.pending
  (.ok (String.ofList text), { line with pending })

/-- Read once, and put the text behind what was read before; a read that
brings nothing is the last one. -/
def readStep (session : Session σ) (text : String) : Action (Line σ) (String ⊕ String) := do
  if (← session.receive) = 0 then return .inr text
  else return .inl (text ++ (← takeText))

/-- The text of everything that has arrived. -/
def readAvailable (session : Session σ) : Action (Line σ) String :=
  Action.loop session.readStep ""

/-- Write a command, wait, and read what came back by then. -/
def sendCommand (session : Session σ) (command : String) (settle : Duration) :
    Action (Line σ) String := do
  onWorld (session.writeLine command)
  onWorld (session.clock.pause settle)
  session.readAvailable

/-! ## Waiting for a text

The expected text is looked for in all that was heard since the wait began, so it may
be spread over several reads. -/

/-- A session with the text that was read while waiting. -/
structure Listening (σ : Type) where
  line : Line σ
  heard : String

def listeningClock (clock : Clock σ) : Clock (Listening σ) where
  now l := clock.now l.line.world
  sleep d l := { l with line := { l.line with world := clock.sleep d l.line.world } }

/-- Read once, and look for the expected text in all that was heard. -/
def listen (session : Session σ) (expected : String) : Action (Listening σ) (Option String) :=
  fun l =>
    match session.receive l.line with
    | (.error e, line) => (.error e, { l with line })
    | (.ok n, line) =>
      let (text, pending) :=
        if n = 0 then ([], line.pending) else Utf8.drain line.pending
      let heard := l.heard ++ String.ofList text
      let found := Text.occursIn expected.toList heard.toList
      (.ok (if found then some heard else none), ⟨{ line with pending }, heard⟩)

/-- The error for a text that did not appear. -/
def notSeen (session : Session σ) (expected : String) (timeout : Duration) (heard : String) :
    Error :=
  .timeout s!"'{expected}' not seen on {session.port.name} within {timeout.tenths}s (got {heard.utf8ByteSize} bytes)"

/-- Read until a text has appeared, and yield everything read so far. -/
def waitFor (session : Session σ) (expected : String) (timeout : Duration) :
    Action (Line σ) String := fun line =>
  let what := s!"'{expected}' on {session.port.name}"
  match Poll.wait (listeningClock session.clock) readInterval timeout what
      (session.listen expected) ⟨line, ""⟩ with
  | (.ok text, l) => (.ok text, l.line)
  | (.error (.timeout _), l) => (.error (session.notSeen expected timeout l.heard), l.line)
  | (.error e, l) => (.error e, l.line)

end Session

end BoardRig
