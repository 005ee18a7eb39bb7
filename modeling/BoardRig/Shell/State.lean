/-
A running process: its state, and how it ends.

What belongs to a process alone stands beside what all processes share. A
shell keeps its variables, functions and options here; another program uses
only its descriptors, its directory and its environment. Time passes with
every step, so that a time limit ends every loop.
-/
import BoardRig.Shell.Signal
import BoardRig.Shell.Stream
import BoardRig.Shell.Syntax

namespace BoardRig.Shell

/-- A variable. Without a value it is only marked. -/
structure Binding where
  value : Option Octets := none
  /-- Whether other programs see it. -/
  exported : Bool := false
  readonly : Bool := false

/-- The state of a process. -/
structure State extends Kernel where
  id : Nat := 4242
  parent : Nat := 4241
  /-- The process that shows as the one of the script, also in copies of it. -/
  script : Nat := 4242
  directory : String := "/"
  /-- The permissions that new files do not get. -/
  mask : Nat := 0o022
  /-- The open files behind the descriptors. -/
  descriptors : List (Nat × Nat) := []
  /-- The name under which it was started. -/
  name : String := "sh"
  arguments : List Octets := []
  bindings : List (String × Binding) := []
  functions : List (String × Nat × Command) := []
  /-- The variables of the functions and commands at hand, with what they were
  before; the innermost first. -/
  locals : List (List (String × Option Binding)) := []
  aliases : List (String × Octets) := []
  /-- The texts that were given with the scripts so far. -/
  documents : List (Nat × Word) := []
  documentCount : Nat := 0
  status : Nat := 0
  /-- The status of the output that was taken last in the command at hand. -/
  takenStatus : Nat := 0
  /-- The line of the command at hand. -/
  line : Nat := 1
  /-- The line on which the function at hand begins. -/
  functionLine : Nat := 0
  /-- The letters of the options that are set. -/
  options : List Char := []
  /-- The command of the shell in whose name complaints are made. -/
  speaker : Option Octets := none
  /-- What is done when a signal comes. -/
  traps : List (Nat × Octets) := []
  /-- How many loops are around the command at hand. -/
  loops : Nat := 0
  /-- The process that was last started beside the rest. -/
  lastJob : Option Nat := none
  /-- The argument in which options are looked for, and how far that went. -/
  optionPlace : Nat := 1
  optionOffset : Nat := 0
  /-- The names of programs that were found, with their paths. -/
  tracked : List (String × Octets) := []
  /-- Why something could not be written, if that was so. -/
  unwritten : Option IoError := none

/-- Why the commands that follow are not run. -/
inductive Stop where
  | exit (status : Nat)
  /-- A mistake ends a shell, unless it was made by a command that can fail. -/
  | failed (status : Nat)
  | return (status : Nat)
  | break (levels : Nat)
  | continue (levels : Nat)
  /-- The process was ended by a signal. -/
  | killed (signal : Nat)
  /-- The time is over. -/
  | late
  /-- A pipe takes nothing more before somebody has read from it. -/
  | held
  /-- A pipe would give more if it had taken more. -/
  | starved
  /-- The commands nest too deep, or repeat too often, to be followed. -/
  | exhausted
deriving DecidableEq, Repr

abbrev Run (α : Type) := ExceptT Stop (StateM State) α

namespace State

def step : Duration := 10000

/-- How long it takes to start a process. -/
def startTime : Duration := 500000

/-- How late somebody may write into a pipe that nobody reads any more. -/
def leeway : Duration := 20000000

/-- Let time pass, up to the end of the process. -/
def spend (d : Duration) : Run Unit := fun p =>
  let time := p.time + d
  let p := { p with files := p.files.atTime time }
  match p.deadline with
  | some deadline =>
    if deadline ≤ time then (.error .late, { p with time := max p.time deadline })
    else (.ok (), { p with time })
  | none => (.ok (), { p with time })

def reach (time : Duration) : Run Unit := do
  let p ← get
  if p.time < time then spend (time - p.time)

def stepOn : Run Unit := fun p =>
  match p.effort with
  | 0 => (.error .exhausted, p)
  | effort + 1 => spend step { p with effort }

/-- Wait for something that never comes. -/
def waitForEver {α : Type} : Run α := fun p =>
  match p.deadline with
  | some deadline => (.error .late, { p with time := max p.time deadline })
  | none => (.error .exhausted, p)

/-! ## Descriptors -/

def openFileOf? (p : State) (descriptor : Nat) : Option (Nat × OpenFile) := do
  let id ← p.descriptors.lookup descriptor
  return (id, ← p.openFile? id)

/-- The state with a descriptor that stands for an open file. -/
def withDescriptor (descriptor id : Nat) (p : State) : State :=
  { p with descriptors := (descriptor, id) :: p.descriptors.filter (·.1 != descriptor) }

def withoutDescriptor (descriptor : Nat) (p : State) : State :=
  { p with descriptors := p.descriptors.filter (·.1 != descriptor) }

/-- The pipes that a process may write into. -/
def pipesOf (p : State) : List Nat :=
  p.descriptors.filterMap fun (_, id) =>
    match p.openFile? id with
    | some f =>
      match f.target with
      | .pipe pipe => if f.writes then some pipe else none
      | .node _ => none
    | none => none

def writePipe (id : Nat) (pipe : Pipe) (cs : Octets) : Run (Option IoError) := fun p =>
  let isDeaf : Bool := match pipe.deaf with
    | some time => time + leeway < p.time
    | none => false
  if isDeaf then (.error (.killed 13), p)
  else
    let size := pipe.size + cs.length
    let put (cs : Octets) : Kernel := p.modifyPipe id fun pipe => { pipe with
      written := ⟨p.time, p.id, cs⟩ :: pipe.written, size }
    match pipe.limit with
    | some limit =>
      if limit < size then
        match pipe.deaf with
        | some time => (.error (.killed 13), { p with toKernel := p.reaching time })
        | none => (.error .held, { p with toKernel := put (cs.take (limit - pipe.size)) })
      else (.ok none, { p with toKernel := put cs })
    | none => (.ok none, { p with toKernel := put cs })

/-- Write octets to a descriptor; yields why it failed, if it did. -/
def writeTo (descriptor : Nat) (cs : Octets) : Run (Option IoError) := do
  let p ← get
  match p.openFileOf? descriptor with
  | none => return some .badDescriptor
  | some (id, f) =>
    if !f.writes then return some .badDescriptor
    else if cs.isEmpty then return none
    else
      match f.target with
      | .pipe pipe =>
        match p.pipe? pipe with
        | some content => writePipe pipe content cs
        | none => return none
      | .node node =>
        match p.files.refusal? node with
        | some e => return some e
        | none =>
          let bytes := Octets.toBytes cs
          let size := match p.files.content? node with
            | some (.file old) => old.length
            | _ => 0
          let place := if f.appends then size else f.offset
          let files := if place = size then p.files.append node bytes
            else p.files.writeAt node place bytes
          let k := { p.toKernel with files }.modifyOpen id ({ · with offset := place + cs.length })
          set { p with toKernel := k }
          return none

/-- Write octets to a descriptor; a failure is noted. -/
def write (descriptor : Nat) (cs : Octets) : Run Unit := do
  if let some e ← writeTo descriptor cs then
    modify fun p => { p with unwritten := p.unwritten.or (some e) }

def put (cs : Octets) : Run Unit := write 1 cs

/-- Write a text and the end of a line to the output. -/
def putLine (cs : Octets) : Run Unit := write 1 (cs ++ ['\n'])

def complainWith (cs : Octets) : Run Unit := do
  discard (writeTo 2 (cs ++ ['\n']))

/-- Write a text to the descriptor for errors. -/
def complain (text : String) : Run Unit :=
  complainWith (Octets.ofString text)

/-! ## Reading -/

/-- How much is read at once from a source without end. -/
def block : Nat := 65536

/-- The first octets of chunks up to a number, and the time when they are
there. -/
def takeChunks : Nat → Duration → List Chunk → Octets × Duration × List Chunk
  | _, time, [] => ([], time, [])
  | n, time, chunk :: rest =>
    if n = 0 then ([], time, chunk :: rest)
    else if n < chunk.octets.length then
      (chunk.octets.take n, max time chunk.time, { chunk with octets := chunk.octets.drop n } :: rest)
    else
      let (more, time, rest) := takeChunks (n - chunk.octets.length) (max time chunk.time) rest
      (chunk.octets ++ more, time, rest)

/-- Read at most so many octets from a descriptor; nothing at the end. What
stands for a file without end gives as many zeros as are asked for. -/
def readSome (descriptor n : Nat) : Run (Except IoError Octets) := do
  let p ← get
  match p.openFileOf? descriptor with
  | none => return .error .badDescriptor
  | some (id, f) =>
    if !f.reads then return .error .badDescriptor
    else
      match f.target with
      | .pipe pipe =>
        match p.pipe? pipe with
        | none => return .ok []
        | some content =>
          let (cs, time, unread) := takeChunks n 0 content.unread
          set { p with toKernel := p.modifyPipe pipe ({ · with unread }) }
          if cs.length < n then
            if content.cut then throw .starved
            reach content.closed
          reach time
          return .ok cs
      | .node node =>
        match p.files.content? node with
        | some (.file bytes) =>
          let cs := Octets.ofBytes ((bytes.drop f.offset).take n)
          set { p with
            toKernel := p.modifyOpen id ({ · with offset := f.offset + cs.length }) }
          return .ok cs
        | some (.directory _) => return .error .isADirectory
        | some (.device .zero) | some (.device .full) => return .ok (List.replicate n '\x00')
        | _ => return .ok []

/-- Read what is there of at most so many octets; if there is nothing yet, wait
for something. -/
def readReady (descriptor n : Nat) : Run (Except IoError Octets) := do
  let p ← get
  match p.openFileOf? descriptor with
  | some (_, f) =>
    match f.target with
    | .pipe pipe =>
      match ((p.pipe? pipe).map (·.unread)).getD [] with
      | [] => readSome descriptor n
      | first :: rest =>
        reach first.time
        let time := max p.time first.time
        let ready := rest.takeWhile fun chunk => chunk.time ≤ time
        let size := ready.foldl (fun n chunk => n + chunk.octets.length) first.octets.length
        readSome descriptor (min n size)
    | .node _ => readSome descriptor n
  | none => return .error .badDescriptor

/-- Whether a descriptor gives octets without end. -/
def isEndless (p : State) (descriptor : Nat) : Bool :=
  match p.openFileOf? descriptor with
  | some (_, f) =>
    match f.target with
    | .node node =>
      match p.files.content? node with
      | some (.device .zero) | some (.device .full) => true
      | _ => false
    | .pipe _ => false
  | none => false

/-- More than any file holds. -/
def everything : Nat := Nat.pow 2 62

def readAll (descriptor : Nat) : Run (Except IoError Octets) := do
  if (← get).isEndless descriptor then waitForEver
  else readSome descriptor everything

def readLine (descriptor : Nat) : Run (Except IoError Octets) := do
  let p ← get
  match p.openFileOf? descriptor with
  | none => return .error .badDescriptor
  | some (_, f) =>
    match f.target with
    | .pipe pipe =>
      let chunks := ((p.pipe? pipe).map (·.unread)).getD []
      let before := chunks.takeWhile fun chunk => !chunk.octets.contains '\n'
      let size := before.foldl (fun n chunk => n + chunk.octets.length) 0
      match chunks.drop before.length with
      | chunk :: _ =>
        readSome descriptor (size + (chunk.octets.takeWhile (· != '\n')).length + 1)
      | [] => readSome descriptor (size + 1)
    | .node node =>
      match p.files.content? node with
      | some (.file bytes) =>
        readSome descriptor (((bytes.drop f.offset).takeWhile (· != 10)).length + 1)
      | some (.device .zero) | some (.device .full) => waitForEver
      | _ => readSome descriptor 1

/-- Go back in what is read, where that can be done. -/
def unread (descriptor n : Nat) : Run Unit := modify fun p =>
  match p.openFileOf? descriptor with
  | some (id, f) =>
    match f.target with
    | .node _ => { p with toKernel := p.modifyOpen id ({ · with offset := f.offset - n }) }
    | .pipe _ => p
  | none => p

/-! ## Files -/

def pathOf (p : State) (cs : Octets) : String :=
  let path := Octets.text cs
  if path.isEmpty then path else Path.join p.directory path

/-- The open file that a descriptor of the process stands for, as a path in the
directory of devices names it. -/
def reopened (p : State) (n : Nat) : Except IoError (State × Nat) :=
  match p.openFileOf? n with
  | some (_, f) =>
    let (k, id) := p.opened f
    .ok ({ p with toKernel := k }, id)
  | none => .error .noSuchFile

def openSource (path : String) : Run (Except IoError Nat) := fun p =>
  match p.files.find path with
  | .error e => (.ok (.error e), p)
  | .ok node =>
    match p.files.content? node with
    | some (.device .terminal) => (.ok (.error .noSuchDevice), p)
    | some (.device (.descriptor n)) =>
      match p.reopened n with
      | .ok (p, id) => (.ok (.ok id), p)
      | .error e => (.ok (.error e), p)
    | _ =>
      let (k, id) := p.opened { target := .node node, reads := true }
      (.ok (.ok id), { p with toKernel := k })

def openSink (path : String) (emptied appends reads : Bool) : Run (Except IoError Nat) := fun p =>
  match p.files.openForWriting emptied path with
  | .error e => (.ok (.error e), p)
  | .ok (files, node) =>
    match files.content? node with
    | some (.device (.descriptor n)) =>
      match p.reopened n with
      | .ok (p, id) => (.ok (.ok id), p)
      | .error e => (.ok (.error e), p)
    | _ =>
      let isNew := (p.files.node? node).isNone
      let files := if isNew then
          files.modify node fun n => { n with mode := 0o666 &&& (0o777 ^^^ (p.mask &&& 0o777)) }
        else files
      let (k, id) := { p.toKernel with files }.opened
        { target := .node node, reads, writes := true, appends }
      (.ok (.ok id), { p with toKernel := k })

def contentAt (path : String) : Run (Except IoError Octets) := do
  match ← openSource path with
  | .error e => return .error e
  | .ok id =>
    let number := Nat.pow 2 20
    modify (withDescriptor number id)
    let r ← readAll number
    modify (withoutDescriptor number)
    return r

/-! ## Variables -/

def value? (p : State) (name : String) : Option Octets :=
  (p.bindings.lookup name).bind (·.value)

def bind (name : String) (binding : Binding) (p : State) : State :=
  match p.bindings.lookup name with
  | some _ =>
    { p with bindings := p.bindings.map fun v => if v.1 = name then (name, binding) else v }
  | none => { p with bindings := p.bindings ++ [(name, binding)] }

/-- The state with another value for a variable, whatever it was. -/
def assign (name : String) (value : Octets) (p : State) : State :=
  p.bind name { (p.bindings.lookup name).getD {} with value := some value }

/-- The state in which other programs see a variable. -/
def expose (name : String) (p : State) : State :=
  p.bind name { (p.bindings.lookup name).getD {} with exported := true }

def unbind (name : String) (p : State) : State :=
  { p with bindings := p.bindings.filter (·.1 != name) }

/-- The variables that other programs see. -/
def environment (p : State) : List (String × Octets) :=
  p.bindings.filterMap fun (name, b) =>
    if b.exported then b.value.map fun value => (name, value) else none

/-- The state with a list of variables that other programs see, and no other
ones. -/
def withEnvironment (env : List (String × Octets)) (p : State) : State :=
  { p with bindings := env.map fun (name, value) => (name, { value := some value, exported := true }) }

/-! ## Processes -/

/-- What a process leaves behind in the one that started it. -/
def afterChild (p child : State) : State := { p with toKernel := child.toKernel }

/-- How something ended that was run as a process of its own, if it did. -/
def ending? : Except Stop Nat → Except Stop Ending
  | .ok status | .error (.exit status) | .error (.failed status) | .error (.return status) =>
    .ok (.exited status)
  | .error (.break _) | .error (.continue _) => .ok (.exited 0)
  | .error (.killed signal) => .ok (.killed signal)
  | .error stop => .error stop

/-- The state in which a process gets to know of those that ended, and forgets
one about which it was told before. -/
def reaping (p : State) : State :=
  let forgotten := p.jobs.find? fun job => job.parent = p.id && job.waited && job.reaped
  { p with jobs := p.jobs.filterMap fun job =>
      if forgotten.any (·.id == job.id) then none
      else some (if job.parent = p.id && job.ended.any (· ≤ p.time) then { job with reaped := true }
        else job) }

def child (act : Run Nat) : Run Ending := fun p =>
  let start : State := { p with id := p.next, parent := p.id, next := p.next + 1 }
  let (r, q) := act start
  let q := { q with toKernel := q.tidied p.next (p.descriptors.map (·.2)) }
  (ending? r, reaping (afterChild p q))

/-- Run beside the rest; yields the number of the process. -/
def beside (act : Run Nat) : Run Nat := fun (p : State) =>
  let id := p.next
  let kept : List Nat := p.descriptors.map (·.2)
  let start : State := { p with
    id, parent := p.id, next := p.next + 1, deadline := none, effort := min p.effort 100000
    time := p.time + startTime }
  let (r, q) := act start
  let q : State := { q with toKernel := q.tidied p.next kept }
  let (ended, ending) := match ending? r with
    | .ok ending => (some q.time, ending)
    | .error _ => (none, .exited 0)
  let job : Job := { id, parent := p.id, ended, ending, pipes := p.pipesOf }
  let k := { q.toKernel with
    time := p.time, deadline := p.deadline, effort := p.effort, jobs := q.jobs ++ [job] }
  (.ok id, { p with toKernel := k, lastJob := some id })

def collecting (act : Run Nat) : Run (Ending × Octets) := fun p =>
  let (k, pipe) := p.toKernel.piped none
  let (k, id) := k.opened { target := .pipe pipe, writes := true }
  let (r, q) := child act (withDescriptor 1 id { p with toKernel := k })
  let cs := (q.written pipe).flatMap (·.octets)
  let released := q.released? pipe
  let k := { q.toKernel with
    pipes := q.pipes.filter (·.1 != pipe), openFiles := q.openFiles.filter (·.1 != id) }
  let p := { p with toKernel := k }
  match r with
  | .error stop => (.error stop, p)
  | .ok ending =>
    match released with
    | some time => (do reach time; return (ending, cs) : Run (Ending × Octets)) p
    | none => (waitForEver : Run (Ending × Octets)) p

/-! ## Pipes -/

/-- The first limit of a pipe, which is what the system gives one. -/
def pipeLimit : Nat := 65536

/-- Run `writer` with a pipe for its output. -/
def filling (limit : Option Nat) (deaf : Option Duration) (writer : Run Nat) :
    State → Except Stop Ending × State × Nat := fun p =>
  let (k, pipe) := p.toKernel.piped limit
  let k := k.modifyPipe pipe ({ · with deaf })
  let (k, id) := k.opened { target := .pipe pipe, writes := true }
  let (r, q) := child writer (withDescriptor 1 id { p with toKernel := k })
  let k := { q.toKernel with openFiles := q.openFiles.filter (·.1 != id) }
  (r, { p with toKernel := k }, pipe)

/-- What is done with a pipe that was filled: how the last process ended, and
when the first of them had ended. -/
abbrev Rest := Run (Ending × Duration)

/-- Run with a pipe that was filled as the input. -/
def emptying (cut : Bool) (pipe : Nat) (time : Duration) (reader : Rest) :
    State → Except Stop (Ending × Duration) × State := fun p =>
  let closed := max p.time ((p.released? pipe).getD p.time)
  let k := p.modifyPipe pipe fun content =>
    { content with unread := p.written pipe, written := [], closed, cut }
  let (k, id) := { k with time }.opened { target := .pipe pipe, reads := true }
  let (r, q) := reader (withDescriptor 0 id { p with toKernel := k })
  let k := { q.toKernel with
    pipes := q.pipes.filter (·.1 != pipe), openFiles := q.openFiles.filter (·.1 != id) }
  (r, { p with toKernel := k })

/-- Run two processes at the same time, where the second reads what the first
writes. If the first was held and the second asks for more, both are run
again with a larger pipe; if the second ended before the first had written
all, the first is run again with nobody who reads. -/
def connected (writer : Run Nat) (reader : Rest) : (fuel limit : Nat) →
    (deaf : Option Duration) → Rest
  | 0, _, _ => throw .exhausted
  | fuel + 1, limit, deaf => fun p =>
    let (r, q, pipe) := filling (some limit) deaf writer p
    let run (cut : Bool) : Except Stop (Ending × Duration) × State :=
      let ended := q.time
      let wrote : Option Duration := (q.written pipe).getLast?.map Chunk.time
      match emptying cut pipe p.time reader q with
      | (.error .starved, q') =>
        if cut then
          match r with
          | .error .late => (.error .late, { q' with toKernel := q'.reaching ended })
          | _ => connected writer reader fuel (limit * 16) deaf p
        else (.error .starved, q')
      | (.ok (ending, first), q') =>
        let tooLate : Bool := match wrote with
          | some time => first + leeway < time
          | none => false
        if (cut || tooLate) && deaf.isNone then
          connected writer reader fuel limit (some first) p
        else (.ok (ending, ended), { q' with toKernel := q'.reaching ended })
      | (.error stop, q') => (.error stop, q')
    match r with
    | .ok _ => run false
    | .error .held => run true
    | .error .late => if deaf.isNone then run true else (.error .late, q)
    | .error stop => (.error stop, q)

end State

end BoardRig.Shell
