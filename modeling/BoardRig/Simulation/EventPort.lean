/-
A serial port that follows a list of events.

Data becomes readable as soon as everything before it was read. The other
events are met by reads of the empty port: the end of the stream, a failure
of the read, or a failure of asking how much is waiting. Writing can be slow
or fail, and a reply follows as soon as what was written ends in its trigger.
-/
import BoardRig.Poll
import BoardRig.Serial.Port

namespace BoardRig.Simulation

/-- What happens at a port. -/
inductive PortEvent where
  | data (bytes : Bytes)
  | failure (error : IoError)
  | endOfStream
  | queryFailure (error : Error)
deriving DecidableEq, Repr

/-- A world of one port and a clock. -/
structure EventLine where
  time : Duration := 0
  buffer : Bytes := []
  events : List PortEvent := []
  replies : List (Bytes × Bytes) := []
  /-- The most bytes that one read gives, and that one write takes. -/
  readMax : Option Nat := none
  writeMax : Option Nat := none
  writeError : Option IoError := none
  flushError : Option IoError := none
  /-- What was written, how often it was flushed, and the sizes asked for. -/
  written : Bytes := []
  flushes : Nat := 0
  readSizes : List Nat := []
deriving DecidableEq, Repr

namespace EventLine

/-- The buffer and the events after data in front has become readable. -/
def arrive (buffer : Bytes) : List PortEvent → Bytes × List PortEvent
  | .data bytes :: rest =>
    if buffer.isEmpty then arrive bytes rest else (buffer, .data bytes :: rest)
  | events => (buffer, events)

/-- The line after data in front has become readable. -/
def settle (l : EventLine) : EventLine :=
  let (buffer, events) := arrive l.buffer l.events
  { l with buffer, events }

def waiting : Action EventLine Nat := fun l =>
  let l := l.settle
  match l.buffer, l.events with
  | [], .queryFailure e :: rest => (.error e, { l with events := rest })
  | buffer, _ => (.ok buffer.length, l)

/-- The failure of a read that nothing answers. -/
def silence : IoError := ⟨.timedOut, "timed out"⟩

def read (n : Nat) : StateM EventLine (Except IoError Bytes) := fun l =>
  let l := { l.settle with readSizes := l.readSizes ++ [n] }
  match l.buffer, l.events with
  | [], .endOfStream :: rest => (.ok [], { l with events := rest })
  | [], .failure e :: rest => (.error e, { l with events := rest })
  | [], _ :: rest => (.error silence, { l with events := rest })
  | [], [] => (.error silence, l)
  | buffer, _ =>
    let n := min n (l.readMax.getD n)
    (.ok (buffer.take n), { l with buffer := buffer.drop n })

/-- The replies that follow when `written` ends in their triggers, first ones
first, and the replies that are left. -/
def fire (written : Bytes) : (fuel : Nat) → List (Bytes × Bytes) →
    List PortEvent × List (Bytes × Bytes)
  | 0, replies => ([], replies)
  | fuel + 1, replies =>
    match replies.find? fun (trigger, _) => trigger.isSuffixOf written with
    | none => ([], replies)
    | some reply =>
      let (events, left) := fire written fuel (replies.erase reply)
      (.data reply.2 :: events, left)

def write (bytes : Bytes) : StateM EventLine (Except IoError Nat) := fun l =>
  match l.writeError with
  | some e => (.error e, l)
  | none =>
    let taken := bytes.take (l.writeMax.getD bytes.length)
    let written := l.written ++ taken
    let (events, replies) := fire written l.replies.length l.replies
    (.ok taken.length, { l with written, replies, events := l.events ++ events })

def flush : StateM EventLine (Except IoError Unit) := fun l =>
  let l := { l with flushes := l.flushes + 1 }
  match l.flushError with
  | some e => (.error e, l)
  | none => (.ok (), l)

def port (name : String) : Port EventLine where
  name
  waiting
  read
  write
  flush

def clock : Clock EventLine where
  now l := l.time
  sleep d l := { l with time := l.time + d }

end EventLine

end BoardRig.Simulation
