/-
The state of a program that acts on records.

There are variables and arrays, the record that was read last with its
fields, and what is read and written. The fields are cut out of the record
when they are asked for, and the record is put together from them again when
one of them was changed.
-/
import Std.Data.HashMap
import BoardRig.Regex.Matching
import BoardRig.Shell.Printf
import BoardRig.Toolbox.Launching
import BoardRig.Toolbox.Records.Reader
import BoardRig.Toolbox.Source

namespace BoardRig.Toolbox.Records

open Shell State

/-! ## Arrays -/

/-- The number under which an index is kept. -/
def mark (key : Octets) : UInt32 :=
  key.foldl (fun h c => (h ^^^ UInt32.ofNat c.toNat) * 16777619) 2166136261

instance (priority := 2000) hashByMark : Hashable Octets :=
  ⟨fun key => (mark key).toUInt64⟩

/-- An array: its values, each with the turn in which it came. -/
structure Table where
  entries : Std.HashMap Octets (Nat × Value) := {}
  turn : Nat := 0

namespace Table

def get? (t : Table) (key : Octets) : Option Value := (t.entries.get? key).map (·.2)

/-- The array with another value for an index. -/
def set (t : Table) (key : Octets) (value : Value) : Table :=
  match t.entries.get? key with
  | some (turn, _) => { t with entries := t.entries.insert key (turn, value) }
  | none => ⟨t.entries.insert key (t.turn, value), t.turn + 1⟩

def erase (t : Table) (key : Octets) : Table := { t with entries := t.entries.erase key }

/-- How many lists the indices of an array are kept in, which doubles as it
grows. -/
def lists : (fuel : Nat) → (size count : Nat) → Nat
  | 0, _, count => count
  | fuel + 1, size, count => if 12 * count < size then lists fuel size (2 * count) else count

/-- All indices in the order of the lists they are kept in, the latest of a list
first. -/
def keys (t : Table) : List Octets :=
  let count := lists 32 t.entries.size 64
  let all := t.entries.toList.map fun (key, turn, _) => ((mark key).toNat % count, turn, key)
  (all.mergeSort fun (a, m, _) (b, n, _) => a < b || (a = b && n ≤ m)).map (·.2.2)

end Table

/-- What a name stands for. -/
inductive Slot where
  | value (v : Value)
  | array (number : Nat)
  /-- Nothing yet; used as an array it is the one with this number. -/
  | open (number : Nat)

/-! ## Input -/

/-- Something that records are read from. -/
structure Input where
  source : Option Source
  /-- The records that were cut out already, if all was read at once. -/
  ready : List Octets := []

/-- The records of a text that are separated by empty lines. -/
def paragraphs : (fuel : Nat) → Octets → List Octets
  | 0, _ => []
  | fuel + 1, cs =>
    let cs := cs.dropWhile (· == '\n')
    if cs.isEmpty then []
    else
      let rec upToGap : Octets → Octets × Octets
        | [] => ([], [])
        | '\n' :: '\n' :: rest => ([], rest)
        | c :: rest =>
          let (head, tail) := upToGap rest
          (c :: head, tail)
      let (head, tail) := upToGap cs
      (if head.getLast? == some '\n' then head.dropLast else head) :: paragraphs fuel tail

/-- A text cut at what an expression matches. -/
def cutAt (r : Regex) (cs : Octets) : List Octets :=
  let found := ((Regex.subject r cs).all.filter fun f => f.start < f.finish)
  let (parts, place) := found.foldl (fun (parts, place) f =>
    ((cs.take f.start).drop place :: parts, f.finish)) (([] : List Octets), 0)
  (cs.drop place :: parts).reverse

/-- The expression that a text is; a text that is none stands for itself. -/
def expressionOf (cs : Octets) : Regex :=
  match Regex.read dialect cs with
  | .ok parsed => parsed.expression
  | .error _ => Regex.literal false cs

def recordsOf (separator : Octets) (cs : Octets) : List Octets :=
  match separator with
  | [] => paragraphs (cs.length + 1) cs
  | [c] =>
    let parts := Text.split c cs
    if parts.getLast? == some [] then parts.dropLast else parts
  | separator =>
    let parts := cutAt (expressionOf separator) cs
    if parts.getLast? == some [] then parts.dropLast else parts

/-- A text cut into fields. `lines` says that the end of a line separates
fields as well. -/
def fieldsOf (separator : Octets) (lines : Bool) (cs : Octets) : List Octets :=
  if cs.isEmpty then []
  else
    match separator with
    | [' '] => Text.wordsFrom (fun c => c == ' ' || c == '\t' || c == '\n') [] cs
    | [] => cs.map fun c => [c]
    | [c] =>
      if lines then (Text.split '\n' cs).flatMap (Text.split c) else Text.split c cs
    | separator =>
      let r := expressionOf separator
      if lines then (Text.split '\n' cs).flatMap (cutAt r) else cutAt r cs

def Input.next (separator : Octets) (i : Input) : Run (Except IoError (Option Octets × Input)) := do
  match i.ready, i.source with
  | r :: rest, _ => return .ok (some r, { i with ready := rest })
  | [], none => return .ok (none, i)
  | [], some source =>
    match separator with
    | [c] =>
      match ← source.next c with
      | .error e => return .error e
      | .ok (some (cs, _), source) => return .ok (some cs, { i with source := some source })
      | .ok (none, _) => return .ok (none, { i with source := none })
    | separator =>
      match ← source.all with
      | .error e => return .error e
      | .ok (cs, _) =>
        match recordsOf separator cs with
        | [] => return .ok (none, ⟨none, []⟩)
        | r :: rest => return .ok (some r, ⟨none, rest⟩)

/-! ## The state -/

/-- Something that is written to besides the output. -/
inductive Sink where
  | file (descriptor : Nat)
  /-- What a command will read, the last part in front. -/
  | command (parts : List Octets)

/-- The state. -/
structure Machine where
  globals : Std.HashMap String Slot := {}
  locals : List (String × Slot) := []
  arrays : Std.HashMap Nat Table := {}
  nextArray : Nat := 0
  /-- The record, unless a field was changed. -/
  record : Option Octets := some []
  /-- The fields, once they were asked for. -/
  fields : Option (Array Value) := none
  input : Option Input := none
  /-- The argument that is read next, and whether one was read. -/
  argument : Nat := 1
  hasRead : Bool := false
  sources : List (Octets × Input) := []
  /-- How commands ended that were read from. -/
  endings : List (Octets × Nat) := []
  sinks : List (Octets × Sink) := []
  /-- What was not written yet, the last part in front. -/
  pending : List Octets := []
  pendingSize : Nat := 0
  seed : Nat := 1
  randomState : Nat := 1
  /-- The rules for ranges of records that have begun. -/
  ranges : List Nat := []
  status : Nat := 0
  functions : Std.HashMap String Definition := {}
  conversion : Decimal.Directive × Char := ({ precision := some 6 }, 'g')
  printing : Decimal.Directive × Char := ({ precision := some 6 }, 'g')

/-- Why what follows is not run. -/
inductive Jump where
  | next
  | nextFile
  | exit

abbrev Act := ExceptT Jump (StateT Machine Run)

/-- What a process does, as a part of that. -/
def run {α : Type} (act : Run α) : Act α := fun m => do
  let a ← act
  return (.ok a, m)

/-! ## Output -/

/-- How much is held back at most before it is written. -/
def bufferSize : Nat := 4096

/-- Write what was held back. -/
def flush : Act Unit := do
  let cs := (← get).pending.reverse.flatten
  modify fun m => { m with pending := [], pendingSize := 0 }
  run (emit cs)

/-- Write to the output, which may be held back. -/
def put (cs : Octets) : Act Unit := do
  modify fun m => { m with
    pending := cs :: m.pending, pendingSize := m.pendingSize + cs.length }
  if bufferSize ≤ (← get).pendingSize then flush

def stopWith {α : Type} (cs : Octets) : Act α := do
  run (faultWith cs)
  flush
  run (throw (.exit 2))

/-- What a variable holds, without regard to what it means. -/
def globalText (m : Machine) (name : String) : Octets :=
  match m.globals.get? name with
  | some (.value v) => v.toText m.conversion
  | _ => []

/-- Stop because of what cannot be done, and tell which record it was. -/
def failWith {α : Type} (cs : Octets) : Act α := do
  let m ← get
  stopWith ("run time error: ".toList ++ cs ++ "\n\tFILENAME=\"".toList ++
    globalText m "FILENAME" ++ "\" FNR=".toList ++ globalText m "FNR" ++ " NR=".toList ++
    globalText m "NR")

/-! ## The record -/

def recordText : Act Octets := do
  let m ← get
  match m.record with
  | some cs => return cs
  | none =>
    let texts := ((m.fields.getD #[]).map (·.toText m.conversion)).toList
    let cs := List.intercalate (globalText m "OFS") texts
    set { m with record := some cs }
    return cs

def recordFields : Act (Array Value) := do
  let m ← get
  match m.fields with
  | some fields => return fields
  | none =>
    let parts := fieldsOf (globalText m "FS") (globalText m "RS").isEmpty (m.record.getD [])
    let fields := (parts.map Value.ofInput).toArray
    set { m with fields := some fields }
    return fields

def setRecord (cs : Octets) : Act Unit := modify fun m => { m with record := some cs, fields := none }

def fieldNumber (v : Value) : Act Nat := do
  let n := whole (exact v.toFloat)
  if n < 0 then failWith ("negative field index $".toList ++ Octets.ofInt n)
  return n.toNat

/-- A field; the record has the number zero. -/
def field (n : Nat) : Act Value := do
  if n = 0 then return Value.ofInput (← recordText)
  else return ((← recordFields)[n - 1]?).getD .nothing

def setField (n : Nat) (v : Value) : Act Unit := do
  if n = 0 then setRecord (v.toText (← get).conversion)
  else
    let fields ← recordFields
    let missing := n - fields.size
    let fields := fields ++ (Array.replicate missing Value.nothing)
    modify fun m => { m with fields := some (fields.set! (n - 1) v), record := none }

def setFieldCount (v : Value) : Act Unit := do
  let n := whole (exact v.toFloat)
  if n < 0 then failWith "negative value assigned to NF".toList
  let fields ← recordFields
  let n := n.toNat
  let fields := if n ≤ fields.size then fields.take n
    else fields ++ Array.replicate (n - fields.size) Value.nothing
  modify fun m => { m with fields := some fields, record := none }

/-! ## Variables -/

def slot (name : String) : Act Slot := do
  let m ← get
  match m.locals.lookup name with
  | some s => return s
  | none => return (m.globals.get? name).getD (.value .nothing)

/-- Let a name stand for something else. -/
def setSlot (name : String) (s : Slot) : Act Unit := modify fun m =>
  match m.locals.lookup name with
  | some _ => { m with locals := m.locals.map fun l => if l.1 == name then (name, s) else l }
  | none => { m with globals := m.globals.insert name s }

/-- The directive that a text is, for numbers that are not whole. -/
def numberFormat (cs : Octets) : Decimal.Directive × Char :=
  let cs := (cs.dropWhile (· != '%')).drop 1
  let (d, rest) := Printf.flags {} cs
  let (width, rest) := Octets.leadingNat rest
  match rest with
  | '.' :: rest =>
    let (precision, rest) := Octets.leadingNat rest
    ({ d with width, precision := some precision }, rest.head?.getD 'g')
  | rest => ({ d with width }, rest.head?.getD 'g')

def valueOf (name : String) : Act Value := do
  if name == "NF" then return .ofNat (← recordFields).size
  match ← slot name with
  | .value v => return v
  | .open _ => return .nothing
  | .array _ => failWith ("illegal reference to array ".toList ++ name.toList)

def setVariable (name : String) (v : Value) : Act Unit := do
  match ← slot name with
  | .array _ => failWith ("illegal reference to array ".toList ++ name.toList)
  | _ =>
    if name == "NF" then setFieldCount v
    else
      -- The record is cut as it was asked for when it was read.
      if name == "FS" || name == "RS" then let _ ← recordFields
      setSlot name (.value v)
      if name == "CONVFMT" then
        modify fun m => { m with conversion := numberFormat (v.toText m.conversion) }
      if name == "OFMT" then
        modify fun m => { m with printing := numberFormat (v.toText m.conversion) }

def newArray : Act Nat := do
  let m ← get
  set { m with arrays := m.arrays.insert m.nextArray {}, nextArray := m.nextArray + 1 }
  return m.nextArray

def arrayNumber (name : String) : Act Nat := do
  match ← slot name with
  | .array n => return n
  | .open n =>
    setSlot name (.array n)
    return n
  | .value .nothing =>
    let n ← newArray
    setSlot name (.array n)
    return n
  | .value _ => failWith ("illegal reference to variable ".toList ++ name.toList)

def table (n : Nat) : Act Table := return ((← get).arrays.get? n).getD {}

def setTable (n : Nat) (t : Table) : Act Unit := modify fun m =>
  { m with arrays := m.arrays.insert n t }

/-! ## Commands -/

def shellFor (launch : Launcher) (command : Octets) : Run Nat :=
  Launching.become launch Quote.text ["/bin/sh".toList, "-c".toList, command]

/-- The status of a command as programs see it. -/
def statusOf : Ending → Nat
  | .exited status => status
  | .killed signal => 256 + signal

def feed (launch : Launcher) (command cs : Octets) : Run Nat := do
  let ending ← child (do
    let p ← get
    let (k, pipe) := p.toKernel.piped none
    let k := k.modifyPipe pipe ({ · with unread := [⟨0, p.id, cs⟩] })
    let (k, opened) := k.opened { target := .pipe pipe, reads := true }
    set (withDescriptor 0 opened { p with toKernel := k })
    shellFor launch command)
  return statusOf ending

/-- End what is written to under a name; yields its status, if it is there. -/
def closeSink (launch : Launcher) (name : Octets) : Act (Option Nat) := do
  let m ← get
  match m.sinks.lookup name with
  | none => return none
  | some sink =>
    set { m with sinks := m.sinks.filter (·.1 != name) }
    match sink with
    | .file descriptor =>
      run (modify (withoutDescriptor descriptor))
      return some 0
    | .command parts => return some (← run (feed launch name parts.reverse.flatten))

def putTo (d : Direction) (name cs : Octets) : Act Unit := do
  if d != .command && (name = "/dev/stdout".toList || name = ['-']) then put cs
  else if d != .command && name = "/dev/stderr".toList then run (State.write 2 cs)
  else
    match (← get).sinks.lookup name, d with
    | some (.file descriptor), _ => run (State.write descriptor cs)
    | some (.command parts), _ =>
      modify fun m => { m with
        sinks := m.sinks.map fun s => if s.1 = name then (name, .command (cs :: parts)) else s }
    | none, .command =>
      flush
      modify fun m => { m with sinks := m.sinks ++ [(name, .command [cs])] }
    | none, d =>
      match ← run (Source.sinkFor name (d == .file)) with
      | .error e => stopWith ("cannot open \"".toList ++ name ++ "\" for output (".toList ++
          Octets.ofString (meaning e) ++ [')'])
      | .ok descriptor =>
        modify fun m => { m with sinks := m.sinks ++ [(name, .file descriptor)] }
        run (State.write descriptor cs)

/-! ## Reading -/

/-- Read an assignment among the arguments. -/
def assignment? (cs : Octets) : Option (String × Octets) :=
  match Text.cutAt? '=' cs with
  | some (name, value) =>
    if (name.head?.any startsName) && name.all (fun c => startsName c || c.isDigit) then
      some (String.ofList name,
        ((quoted (value.length + 2) [] (value ++ ['"'])).map (·.1)).getD value)
    else none
  | none => none

/-- Open what is read next; tells whether there is anything. -/
def openInput : (fuel : Nat) → Act Bool
  | 0 => return false
  | fuel + 1 => do
    let m ← get
    let count := (leading (globalText m "ARGC"))
    if m.argument < (whole (exact count)).toNat then
      set { m with argument := m.argument + 1 }
      let args ← table (← arrayNumber "ARGV")
      let arg := ((args.get? (Octets.ofNat m.argument)).getD .nothing).toText m.conversion
      if arg.isEmpty then openInput fuel
      else
        match assignment? arg with
        | some (name, value) =>
          setVariable name (.ofInput value)
          openInput fuel
        | none => readFrom arg
    else if m.hasRead then return false
    else readFrom ['-']
where
  /-- Read from a file. -/
  readFrom (file : Octets) : Act Bool := do
    match ← run (Source.ofFile file) with
    | .error e => stopWith ("cannot open \"".toList ++ file ++ "\" (".toList ++
        Octets.ofString (meaning e) ++ [')'])
    | .ok source =>
      modify fun m => { m with input := some { source := some source }, hasRead := true }
      setVariable "FILENAME" (if file = ['-'] then .text [] else .ofInput file)
      setVariable "FNR" (.ofNat 0)
      return true

def nextRecord : (fuel : Nat) → Act (Option Octets)
  | 0 => return none
  | fuel + 1 => do
    let m ← get
    match m.input with
    | none =>
      let count := (whole (exact (leading (globalText m "ARGC")))).toNat
      if ← openInput (count + 2) then nextRecord fuel else return none
    | some input =>
      match ← run (input.next (globalText m "RS")) with
      | .error e => stopWith ("read error (".toList ++ Octets.ofString (meaning e) ++ [')'])
      | .ok (some cs, input) =>
        modify fun m => { m with input := some input }
        return some cs
      | .ok (none, _) =>
        modify fun m => { m with input := none }
        nextRecord fuel

def countRecord (alsoInFile : Bool) : Act Unit := do
  let more (name : String) : Act Unit := do
    setSlot name (.value (.number ((← valueOf name).toFloat + 1)))
  more "NR"
  if alsoInFile then more "FNR"

end BoardRig.Toolbox.Records
