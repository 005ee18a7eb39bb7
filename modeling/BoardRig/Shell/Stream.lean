/-
Open files, pipes and the clock: what all processes of a machine share.

An open file has a place where it is read and written next, and descriptors
of several processes may stand for the same one. A pipe keeps what was
written into it together with the time of writing, so that what two processes
write at the same time can be put in order. A pipe that one process fills
before another one empties it takes a limited amount; then the one that fills
it is held, and it is tried again with a larger amount if the other one asks
for more.
-/
import BoardRig.Duration
import BoardRig.FileSystem.Operations
import BoardRig.Shell.Octets

namespace BoardRig.Shell

/-- What was written at once. -/
structure Chunk where
  time : Duration
  /-- The process that wrote it. -/
  writer : Nat
  octets : Octets

/-- A pipe. -/
structure Pipe where
  /-- What was written, the latest first. -/
  written : List Chunk := []
  size : Nat := 0
  /-- How much it takes. -/
  limit : Option Nat := none
  /-- Since when nobody reads from it. -/
  deaf : Option Duration := none
  /-- What is left to be read. -/
  unread : List Chunk := []
  /-- When it is known that nothing more comes. -/
  closed : Duration := 0
  /-- Whether more would come if it took more. -/
  cut : Bool := false

/-- What is behind an open file. -/
inductive Target where
  | node (id : Nat)
  | pipe (id : Nat)
deriving DecidableEq, Repr

/-- An open file. -/
structure OpenFile where
  target : Target
  offset : Nat := 0
  reads : Bool := false
  writes : Bool := false
  /-- Whether everything is written at the end. -/
  appends : Bool := false
deriving Repr

/-- How a process ended. -/
inductive Ending where
  | exited (status : Nat)
  | killed (signal : Nat)
deriving DecidableEq, Repr

namespace Ending

def status : Ending → Nat
  | exited status => status % 256
  | killed signal => 128 + signal

end Ending

/-- A process that runs beside the one that started it. -/
structure Job where
  id : Nat
  parent : Nat
  /-- When it ends; without a time it runs for ever. -/
  ended : Option Duration
  ending : Ending
  /-- The pipes that it may write into. -/
  pipes : List Nat
  /-- Whether the end of the process is known to the one that started it. -/
  reaped : Bool := false
  /-- Whether it was asked how the process ended. -/
  waited : Bool := false

/-- What the processes of a machine share. -/
structure Kernel where
  files : FileSystem
  time : Duration := 0
  /-- When the processes are stopped. -/
  deadline : Option Duration := none
  /-- How many steps can still be followed. -/
  effort : Nat := Nat.pow 2 23
  openFiles : List (Nat × OpenFile) := []
  pipes : List (Nat × Pipe) := []
  jobs : List Job := []
  /-- Signals that are under way: when one arrives, at which process, and its
  number. -/
  signals : List (Duration × Nat × Nat) := []
  /-- A number that no open file, pipe or process has. -/
  next : Nat := 10000

namespace Kernel

def openFile? (k : Kernel) (id : Nat) : Option OpenFile := k.openFiles.lookup id

def modifyOpen (k : Kernel) (id : Nat) (change : OpenFile → OpenFile) : Kernel :=
  { k with openFiles := k.openFiles.map fun (n, f) => if n = id then (n, change f) else (n, f) }

def pipe? (k : Kernel) (id : Nat) : Option Pipe := k.pipes.lookup id

def modifyPipe (k : Kernel) (id : Nat) (change : Pipe → Pipe) : Kernel :=
  { k with pipes := k.pipes.map fun (n, p) => if n = id then (n, change p) else (n, p) }

/-- The state with one more open file, and its number. -/
def opened (k : Kernel) (f : OpenFile) : Kernel × Nat :=
  ({ k with openFiles := (k.next, f) :: k.openFiles, next := k.next + 1 }, k.next)

/-- The state with one more pipe, and its number. -/
def piped (k : Kernel) (limit : Option Nat) : Kernel × Nat :=
  ({ k with pipes := (k.next, { limit }) :: k.pipes, next := k.next + 1 }, k.next)

/-- The state with time up to a given one. -/
def reaching (k : Kernel) (time : Duration) : Kernel := { k with time := max k.time time }

/-- What was written into a pipe, in the order of time. -/
def written (k : Kernel) (id : Nat) : List Chunk :=
  match k.pipe? id with
  | some p => p.written.reverse.mergeSort fun a b => a.time ≤ b.time
  | none => []

/-- When the last process that runs beside the rest lets go of a pipe; nothing
if it never does. -/
def released? (k : Kernel) (id : Nat) : Option Duration :=
  k.jobs.foldl (fun time job =>
    if job.pipes.contains id then
      match time, job.ended with
      | some a, some b => some (max a b)
      | _, _ => none
    else time) (some 0)

/-- The state without open files from some number on, apart from those that
are kept. -/
def tidied (k : Kernel) (start : Nat) (kept : List Nat) : Kernel :=
  { k with openFiles := k.openFiles.filter fun (n, _) => n < start || kept.contains n }

end Kernel

end BoardRig.Shell
