/-
Processes that a shell has started, and the signals between them.

A process that runs beside the rest is known by its number; what it wrote
after a signal ended it is taken back. A shell that gets a signal does what a
trap says, and otherwise ends.
-/
import BoardRig.Shell.Variable

namespace BoardRig.Shell.State

/-! ## Signals -/

def trap? (p : State) (signal : Nat) : Option Octets := p.traps.lookup signal

def send (process signal : Nat) : Run Unit := modify fun p =>
  { p with signals := p.signals ++ [(p.time, process, signal)] }

/-- The signals that have arrived at a process, which are gone then. -/
def takeSignals : Run (List Nat) := do
  let p ← get
  let isHere (s : Duration × Nat × Nat) : Bool := s.2.1 == p.id && s.1 ≤ p.time
  let arrived := p.signals.filter isHere
  if arrived.isEmpty then return []
  set { p with signals := p.signals.filter fun s => !isHere s }
  return (arrived.map (·.2.2)).eraseDups.mergeSort

def endJob (job : Job) (signal : Nat) : Run Unit := modify fun p =>
  let cut (pipe : Pipe) : Pipe := { pipe with
    written := pipe.written.filter fun chunk => chunk.writer != job.id || chunk.time ≤ p.time }
  { p with
    pipes := p.pipes.map fun (n, pipe) => (n, cut pipe)
    jobs := p.jobs.map fun j =>
      if j.id = job.id then { j with ended := some p.time, ending := .killed signal } else j }

/-- Send a signal to a process; tells whether there is such a process. -/
def signalTo (process signal : Nat) : Run Bool := do
  let p ← get
  if process = p.id || process = p.script || process = p.parent || process = 0 then
    if signal != 0 then send (if process = 0 then p.id else process) signal
    return true
  else
    match p.jobs.find? fun job => job.id == process && !job.reaped with
    | some job =>
      let runs := job.ended.all fun time => p.time < time
      if runs && Signal.ends signal then endJob job signal
      return true
    | none => return process = 1 && signal = 0

/-- How `kill` is used. -/
def killUsage : String :=
  "Usage: kill [-s sigspec | -signum | -sigspec] [pid | job]... or\nkill -l [exitstatus]"

def listSignals (args : List Octets) : Run Nat := do
  match args with
  | [] =>
    put ("0\n".toList ++ ((List.range Signal.greatest).flatMap fun n =>
      (Signal.name (n + 1)).toList ++ ['\n']))
    return 0
  | arg :: _ =>
    let n ← numberIn arg
    let signal := if 128 < n then n - 128 else n
    if 0 < signal && signal ≤ Signal.greatest then
      putLine (Signal.name signal).toList
      return 0
    else failWith ("invalid signal number or exit status: ".toList ++ arg)

def processIn (arg : Octets) : Run Nat := do
  match arg with
  | '%' :: n =>
    let p ← get
    let mine := p.jobs.filter (·.parent == p.id)
    match mine[(Octets.leadingNat n).1 - 1]? with
    | some job => return job.id
    | none => failWith ("No such job: ".toList ++ arg)
  | '-' :: n => numberIn n
  | n => numberIn n

def kill (args : List Octets) : Run Nat := do
  let sendAll (signal : Nat) (targets : List Octets) : Run Nat := do
    if targets.isEmpty then fail killUsage
    targets.foldlM (fun status target => do
      let process ← processIn target
      let found ← signalTo process signal
      -- A job is named as a group of processes, and there are no groups.
      if found && target.head? != some '%' then return status
      else
        protest "No such process\n"
        return 1) 0
  match args with
  | [] => fail killUsage
  | ('-' :: name) :: rest =>
    match Signal.number? false name with
    | some signal => sendAll signal rest
    | none =>
      let (found, rest) ← splitOptions "ls:" args
      if found.any (·.1 == 'l') then listSignals rest
      else
        match found.getLast? with
        | some (_, name) =>
          match Signal.number? false name with
          | some signal => sendAll signal rest
          | none => failWith ("invalid signal number or name: ".toList ++ name)
        | none => sendAll 15 rest
  | targets => sendAll 15 targets

/-- Say what is to be done when signals come, or write that down. -/
def setTraps (args : List Octets) : Run Nat := do
  match ← withoutOptions args with
  | [] =>
    let p ← get
    let known := (List.range (Signal.greatest + 1)).filterMap fun n =>
      (p.trap? n).map fun action => (n, action)
    put (known.flatMap fun (n, action) =>
      "trap -- ".toList ++ quoted action ++ ' ' :: (Signal.name n).toList ++ ['\n'])
    return 0
  | first :: rest =>
    let isAction := !rest.isEmpty && (Octets.nat? first).all (Signal.greatest < ·)
    let action := if isAction && first != ['-'] then some first else none
    let rec change : List Octets → Run Nat
      | [] => pure 0
      | name :: names =>
        match Signal.number? false name with
        | some signal => do
          modify fun p => { p with
            traps := (action.toList.map fun a => (signal, a)) ++
              p.traps.filter (·.1 != signal) }
          change names
        | none => do
          complainWith ("trap: ".toList ++ name ++ ": bad trap".toList)
          return 1
    change (if isAction then rest else first :: rest)

/-! ## Waiting -/

/-- Wait for a process; a signal with an action cuts the waiting short. Tells
the status, and whether the process has ended. -/
def waitForJob (job : Job) : Run (Nat × Bool) := do
  let p ← get
  let cut := p.signals.filterMap fun (time, process, signal) =>
    if process = p.id && ((p.trap? signal).any (!·.isEmpty)) then some (time, signal) else none
  let first := cut.mergeSort (fun a b => a.1 ≤ b.1) |>.head?
  let finish (time : Duration) : Run (Nat × Bool) := do
    reach time
    modify fun p => { p with jobs := (reaping p).jobs.map fun j =>
      if j.id = job.id then { j with waited := true } else j }
    return (job.ending.status, true)
  match first, job.ended with
  | some (time, signal), some ended =>
    if time < ended then
      reach time
      return (128 + signal, false)
    else finish ended
  | some (time, signal), none =>
    reach time
    return (128 + signal, false)
  | none, some ended => finish ended
  | none, none => waitForEver

/-- Wait for processes that run beside the rest. -/
def wait (args : List Octets) : Run Nat := do
  let args ← withoutOptions args
  let p ← get
  if args.isEmpty then
    for job in p.jobs.filter (·.parent == p.id) do
      let (status, ended) ← waitForJob job
      if !ended then return status
    return 0
  else
    args.foldlM (fun _ arg => do
      let process ← processIn arg
      match (← get).jobs.find? fun job => job.id == process && job.parent == p.id with
      | some job =>
        let (status, ended) ← waitForJob job
        if ended && !job.reaped then
          if let .killed signal := job.ending then
            if Signal.obituary signal != "" then complain (Signal.obituary signal)
        return status
      | none => return 127) 127

/-- How a list of processes tells about one. -/
def stateOfJob (p : State) (job : Job) : String :=
  if job.ended.all (p.time < ·) then "Running"
  else
    match job.ending with
    | .exited 0 => "Done"
    | .exited status => "Done(" ++ Nat.repr status ++ ")"
    | .killed signal => Signal.obituary signal

/-- List the processes that run beside the rest. Those that ended are told
about once. -/
def listJobs (args : List Octets) : Run Nat := do
  let (found, _) ← splitOptions "lp" args
  let p ← get
  let onlyNumbers := found.getLast?.any (·.1 == 'p')
  let mine := (p.jobs.filter (·.parent == p.id)).zipIdx
  let count := mine.length
  for (job, n) in mine.reverse do
    let number := Octets.ofNat job.id
    if onlyNumbers then putLine number
    else
      let sign := if n + 1 = count then '+' else if n + 2 = count then '-' else ' '
      let head := '[' :: Octets.ofNat (n + 1) ++ [']', ' ', sign, ' ']
      let head := if found.isEmpty then head else head ++ number ++ [' ']
      putLine (Octets.padRight 33 ' ' (head ++ (p.stateOfJob job).toList))
  if !onlyNumbers then
    modify fun p => { p with jobs := p.jobs.filter fun job =>
      job.parent != p.id || job.ended.all (p.time < ·) }
  return 0

end BoardRig.Shell.State
