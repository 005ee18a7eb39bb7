/-
Running programs that act on records.

The rules are tried for each record in turn. Before the first and behind the
last there are rules of their own. A program that has only rules for the
start reads nothing by itself.
-/
import BoardRig.Toolbox.Calendar
import BoardRig.Toolbox.Records.Machine

namespace BoardRig.Toolbox.Records

open Shell State

/-! ## Functions on texts -/

/-- A part of a text: where it begins and how long it is, as numbers of which
only the whole part counts. What is in front of the text adds to the length. -/
def partOf (cs : Octets) (start : Float) (length : Option Float) : Octets :=
  let first := whole (Decimal.Number.rounded .double (exact start))
  match length with
  | none => cs.drop (first - 1).toNat
  | some n =>
    let n := whole (exact n)
    if first < 1 then cs.take (n - first).toNat else (cs.drop (first - 1).toNat).take n.toNat

/-- Where a text begins in another one, counted from one; zero if it does not. -/
def positionOf (part : Octets) : (place : Nat) → Octets → Nat
  | place, [] => if part.isEmpty then place else 0
  | place, c :: rest => if part.isPrefixOf (c :: rest) then place else positionOf part (place + 1) rest

def replaced (matched : Octets) : Octets → Octets
  | [] => []
  | '\\' :: '&' :: rest => '&' :: replaced matched rest
  | '\\' :: '\\' :: rest => '\\' :: replaced matched rest
  | '&' :: rest => matched ++ replaced matched rest
  | c :: rest => c :: replaced matched rest

/-- A text with matches replaced, and how many there were. -/
def substituted (r : Regex) (all : Bool) (replacement cs : Octets) : Octets × Nat :=
  let subject := Regex.subject r cs
  let found := if all then subject.all else (subject.find? 0).toList
  let (parts, place) := found.foldl (fun (parts, place) f =>
    let matched := (cs.take f.finish).drop f.start
    (replaced matched replacement :: ((cs.take f.start).drop place) :: parts, f.finish))
    (([] : List Octets), 0)
  ((cs.drop place :: parts).reverse.flatten, found.length)

/-! ## Formats -/

/-- A width or a precision at the front of a directive. -/
def extent (cs : Octets) (args : List Value) : Option (Int × Octets × List Value) :=
  match cs with
  | '*' :: rest =>
    match args with
    | v :: args => some (whole (exact v.toFloat), rest, args)
    | [] => none
  | cs =>
    let (n, rest) := Octets.leadingNat cs
    some (n, rest, args)

def formattedValue (conversion : Decimal.Directive × Char) (d : Decimal.Directive) (letter : Char)
    (v : Value) : Octets :=
  let n := exact v.toFloat
  let k := max (-Int.pow 2 63) (min (whole n) (Int.pow 2 64 - 1))
  match letter with
  | 'd' | 'i' => d.signed k
  | 'o' | 'x' | 'X' | 'u' => d.unsigned letter (if k < 0 then (Nat.pow 2 64 + k).toNat else k.toNat)
  | 'c' =>
    match v with
    | .number _ => d.text [Char.ofNat (k.toNat % 256)]
    | v => d.text [((v.toText conversion).head?).getD '\x00']
  | 's' => d.text (v.toText conversion)
  | letter => d.real .double letter n

/-- Values written in a format, up to where there are too few, and whether there
were enough. -/
def formatted (conversion : Decimal.Directive × Char) : (fuel : Nat) → Octets → List Value →
    Octets × Bool
  | 0, _, _ => ([], true)
  | _ + 1, [], _ => ([], true)
  | fuel + 1, '%' :: '%' :: rest, args =>
    let (cs, enough) := formatted conversion fuel rest args
    ('%' :: cs, enough)
  | fuel + 1, '%' :: start, args =>
    match directiveAt start args with
    | none => ([], false)
    | some (d, cs, args) =>
      match cs.dropWhile fun c => c == 'l' || c == 'h' with
      | [] => ('%' :: start, true)
      | letter :: rest =>
        if "diouxXceEfFgGs".toList.contains letter then
          match args with
          | [] => ([], false)
          | v :: args =>
            let (cs, enough) := formatted conversion fuel rest args
            (formattedValue conversion d letter v ++ cs, enough)
        else
          let (cs, enough) := formatted conversion fuel rest args
          ('%' :: start.take (start.length - rest.length) ++ cs, enough)
  | fuel + 1, c :: rest, args =>
    let (cs, enough) := formatted conversion fuel rest args
    (c :: cs, enough)
where
  /-- The flags, the width and the precision of a directive. -/
  directiveAt (cs : Octets) (args : List Value) :
      Option (Decimal.Directive × Octets × List Value) := do
    let (d, cs) := Printf.flags {} cs
    let (width, cs, args) ← extent cs args
    let d := { d with left := d.left || width < 0, width := width.natAbs }
    match cs with
    | '.' :: cs =>
      let (precision, cs, args) ← extent cs args
      return ({ d with precision := if precision < 0 then none else some precision.toNat }, cs, args)
    | cs => return (d, cs, args)

/-! ## Evaluation -/

/-- How a statement ends. -/
inductive Flow where
  | onward
  | broken
  | continued
  | returned (v : Value)

def jump {α : Type} (j : Jump) : Act α := throw j

def joinedIndex (values : List Value) : Act Octets := do
  let m ← get
  return List.intercalate (globalText m "SUBSEP") (values.map (·.toText m.conversion))

def randomNumber : Act Float := do
  let m ← get
  let next := (m.randomState * 6364136223846793005 + 1442695040888963407) % Nat.pow 2 64
  set { m with randomState := next }
  return Float.ofNat (next / Nat.pow 2 33) / 2147483648

/-- Read a record of the input, into a target or as the record. -/
def readMain (target : Option (Value → Act Unit)) : Act Value := do
  match ← nextRecord (Nat.pow 2 20) with
  | none => return .number 0
  | some cs =>
    countRecord true
    match target with
    | some assign => assign (.ofInput cs)
    | none => setRecord cs
    return .number 1

/-- Read a record of a file or of what a command writes. -/
def readFrom (launch : Launcher) (isCommand : Bool) (target : Option (Value → Act Unit))
    (name : Octets) : Act Value := do
  let key := (if isCommand then '|' else '<') :: name
  let input ← match (← get).sources.lookup key with
    | some input => pure (some input)
    | none =>
      if isCommand then
        flush
        let (ending, cs) ← run (collecting (shellFor launch name))
        let separator := globalText (← get) "RS"
        modify fun m => { m with endings := (name, statusOf ending) :: m.endings }
        pure (some ⟨none, recordsOf separator cs⟩)
      else
        match ← run (Source.ofFile (if name = "/dev/stdin".toList then ['-'] else name)) with
        | .ok source => pure (some { source := some source })
        | .error _ => pure none
  match input with
  | none => return .number (-1)
  | some input =>
    match ← run (input.next (globalText (← get) "RS")) with
    | .error _ => return .number (-1)
    | .ok (cs, input) =>
      modify fun m => { m with sources := (key, input) :: m.sources.filter (·.1 != key) }
      match cs with
      | none => return .number 0
      | some cs =>
        if isCommand then countRecord false
        match target with
        | some assign => assign (.ofInput cs)
        | none => setRecord cs
        return .number 1

/-- End what is read or written under a name. -/
def close (launch : Launcher) (name : Octets) : Act Value := do
  let m ← get
  let keys := ['|' :: name, '<' :: name]
  let wasRead := m.sources.any fun s => keys.contains s.1
  let status := (m.endings.lookup name).getD 0
  set { m with
    sources := m.sources.filter fun s => !keys.contains s.1
    endings := m.endings.filter (·.1 != name) }
  flush
  match ← closeSink launch name with
  | some status => return .ofNat status
  | none => return if wasRead then .ofNat status else .number (-1)

/-- The first value as a format with the others as its arguments; `partly` says
that what could be written is written even if there are too few. -/
def formattedAll (partly : Bool) (values : List Value) : Act Octets := do
  let conversion := (← get).conversion
  match values with
  | [] => return []
  | format :: values =>
    let format := format.toText conversion
    let (cs, enough) := formatted conversion (format.length + 1) format values
    if !enough then
      if partly then put cs
      failWith ("not enough arguments passed to printf(\"".toList ++ format ++ "\")".toList)
    return cs

def computed (f : Function) (x y : Float) : Option Float :=
  match f with
  | .whole => some (if x < 0 then x.ceil else x.floor)
  | .root => some x.sqrt
  | .sine => some x.sin
  | .cosine => some x.cos
  | .exponential => some x.exp
  | .logarithm => some x.log
  | .angle => some (Float.atan2 x y)
  | _ => none

mutual

def eval (launch : Launcher) : (fuel : Nat) → Expression → Act Value
  | 0, _ => run (throw .exhausted)
  | fuel + 1, e => do
    let number (e : Expression) : Act Float := return (← eval launch fuel e).toFloat
    let text (e : Expression) : Act Octets := do
      let v ← eval launch fuel e
      return v.toText (← get).conversion
    match e with
    | .number x => return .number x
    | .text cs => return .text cs
    | .pattern r => return .ofBool (Regex.subject r (← recordText)).has
    | .variable name => valueOf name
    | .element name index => do
      let key ← indexOf launch fuel index
      let n ← arrayNumber name
      let t ← table n
      match t.get? key with
      | some v => return v
      | none =>
        setTable n (t.set key .nothing)
        return .nothing
    | .field n => do
      let v ← eval launch fuel n
      field (← fieldNumber v)
    | .assign target value => do
      let v ← eval launch fuel value
      assign launch fuel target v
      return v
    | .update op target value => do
      let y ← number value
      let x ← number target
      let v : Value := .number (op.apply x y)
      assign launch fuel target v
      return v
    | .step increase before target => do
      let x ← number target
      let y := if increase then x + 1 else x - 1
      assign launch fuel target (.number y)
      return .number (if before then y else x)
    | .arithmetic op a b => do
      let x ← number a
      let y ← number b
      return .number (op.apply x y)
    | .negative a => return .number (-(← number a))
    | .positive a => return .number (← number a)
    | .opposite a => return .ofBool !(← eval launch fuel a).holds
    | .comparison op a b => do
      let x ← eval launch fuel a
      let y ← eval launch fuel b
      return .ofBool (x.compares (← get).conversion op y)
    | .fits wanted a b => do
      let cs ← text a
      let r ← regexOf launch fuel b
      return .ofBool ((Regex.subject r cs).has == wanted)
    | .both a b => do
      if (← eval launch fuel a).holds then return .ofBool (← eval launch fuel b).holds
      else return .ofBool false
    | .either a b => do
      if (← eval launch fuel a).holds then return .ofBool true
      else return .ofBool (← eval launch fuel b).holds
    | .choice c a b => do
      if (← eval launch fuel c).holds then eval launch fuel a else eval launch fuel b
    | .joined a b => do
      let x ← text a
      let y ← text b
      return .text (x ++ y)
    | .member index name => do
      let key ← indexOf launch fuel index
      return .ofBool ((← table (← arrayNumber name)).get? key).isSome
    | .group es => do
      let values ← evalAll launch fuel es
      match values with
      | [v] => return v
      | values => return .text (← joinedIndex values)
    | .call name args => call launch fuel name args
    | .apply f args => apply launch fuel f args
    | .read target => readMain (target.map fun t v => assign launch fuel t v)
    | .readFile target file => do
      let name ← text file
      readFrom launch false (target.map fun t v => assign launch fuel t v) name
    | .readCommand target command => do
      let name ← text command
      readFrom launch true (target.map fun t v => assign launch fuel t v) name
termination_by structural fuel => fuel

def evalAll (launch : Launcher) : (fuel : Nat) → List Expression → Act (List Value)
  | 0, _ => run (throw .exhausted)
  | _ + 1, [] => return []
  | fuel + 1, e :: rest => do
    let v ← eval launch fuel e
    return v :: (← evalAll launch fuel rest)
termination_by structural fuel => fuel

def indexOf (launch : Launcher) : (fuel : Nat) → List Expression → Act Octets
  | 0, _ => run (throw .exhausted)
  | fuel + 1, es => do joinedIndex (← evalAll launch fuel es)
termination_by structural fuel => fuel

def regexOf (launch : Launcher) : (fuel : Nat) → Expression → Act Regex
  | 0, _ => run (throw .exhausted)
  | fuel + 1, e => do
    match e with
    | .pattern r => return r
    | e =>
      let v ← eval launch fuel e
      let cs := v.toText (← get).conversion
      match Regex.read dialect cs with
      | .ok parsed => return parsed.expression
      | .error _ => failWith ("regular expression compile failed\n".toList ++ cs)
termination_by structural fuel => fuel

def assign (launch : Launcher) : (fuel : Nat) → Expression → Value → Act Unit
  | 0, _, _ => run (throw .exhausted)
  | fuel + 1, target, v => do
    match target with
    | .variable name => setVariable name v
    | .element name index =>
      let key ← indexOf launch fuel index
      let n ← arrayNumber name
      setTable n ((← table n).set key v)
    | .field e =>
      let n ← fieldNumber (← eval launch fuel e)
      setField n v
    | .group [e] => assign launch fuel e v
    | _ => return
termination_by structural fuel => fuel

/-- What the parameters of a function stand for. -/
def bindArguments (launch : Launcher) : (fuel : Nat) → List String → List Expression →
    Act (List (String × Slot))
  | 0, _, _ => run (throw .exhausted)
  | _ + 1, [], _ => return []
  | fuel + 1, name :: names, args => do
    match args with
    | [] => return (name, .value .nothing) :: (← bindArguments launch fuel names [])
    | .variable passed :: rest =>
      let s ← if passed == "NF" then do pure (Slot.value (← valueOf passed)) else
        match ← slot passed with
        | .value .nothing => do
          let n ← newArray
          setSlot passed (.open n)
          pure (Slot.open n)
        | s => pure s
      return (name, s) :: (← bindArguments launch fuel names rest)
    | e :: rest =>
      let v ← eval launch fuel e
      return (name, .value v) :: (← bindArguments launch fuel names rest)
termination_by structural fuel => fuel

def call (launch : Launcher) : (fuel : Nat) → String → List Expression → Act Value
  | 0, _, _ => run (throw .exhausted)
  | fuel + 1, name, args => do
    match (← get).functions.get? name with
    | none => return .nothing
    | some d =>
      run stepOn
      let bound ← bindArguments launch fuel d.parameters args
      let before := (← get).locals
      modify fun m => { m with locals := bound }
      let flow ← exec launch fuel d.body
      modify fun m => { m with locals := before }
      match flow with
      | .returned v => return v
      | _ => return .nothing
termination_by structural fuel => fuel

def apply (launch : Launcher) : (fuel : Nat) → Function → List Expression → Act Value
  | 0, _, _ => run (throw .exhausted)
  | fuel + 1, f, args => do
    let nth (n : Nat) : Act Value := match args[n]? with
      | some e => eval launch fuel e
      | none => return .nothing
    let text (n : Nat) : Act Octets := do
      let v ← nth n
      return v.toText (← get).conversion
    let number (n : Nat) : Act Float := return (← nth n).toFloat
    match f with
    | .length => do
      match args with
      | [] => return .ofNat (← recordText).length
      | [.variable name] =>
        match ← slot name with
        | .array n => return .ofNat (← table n).entries.size
        | _ => return .ofNat (← text 0).length
      | _ => return .ofNat (← text 0).length
    | .part => do
      let cs ← text 0
      let start ← number 1
      if args.length < 3 then return .text (partOf cs start none)
      else return .text (partOf cs start (some (← number 2)))
    | .position => do
      let cs ← text 0
      let part ← text 1
      return .ofNat (positionOf part 1 cs)
    | .split => do
      let cs ← text 0
      let array : Option Expression := args[1]?
      match array with
      | some (.variable name) =>
        let n ← arrayNumber name
        let separator : Option Expression := args[2]?
        let parts ← match separator with
          | none => pure (fieldsOf (globalText (← get) "FS") false cs)
          | some (.pattern r) => pure (if cs.isEmpty then [] else cutAt r cs)
          | some e => do
            let v ← eval launch fuel e
            pure (fieldsOf (v.toText (← get).conversion) false cs)
        setTable n (parts.zipIdx.foldl (fun t (part, k) =>
          t.set (Octets.ofNat (k + 1)) (.ofInput part)) {})
        return .ofNat parts.length
      | _ => return .number 0
    | .replaceFirst | .replaceAll => do
      match args with
      | pattern :: _ :: rest =>
        let r ← regexOf launch fuel pattern
        let replacement ← text 1
        let target := (rest.head?).getD (.field (.number 0))
        let v ← eval launch fuel target
        let (cs, count) := substituted r (f = .replaceAll) replacement
          (v.toText (← get).conversion)
        if 0 < count then assign launch fuel target (.text cs)
        return .ofNat count
      | _ => return .number 0
    | .find => do
      let cs ← text 0
      match args[1]? with
      | none => return .number 0
      | some e =>
        let r ← regexOf launch fuel e
        let (start, length) : Float × Float := match (Regex.subject r cs).find? 0 with
          | some found => (Float.ofNat (found.start + 1), Float.ofNat (found.finish - found.start))
          | none => (0, -1)
        setVariable "RSTART" (.number start)
        setVariable "RLENGTH" (.number length)
        return .number start
    | .format => do
      let values ← evalAll launch fuel args
      return .text (← formattedAll false values)
    | .toLower => return .text ((← text 0).map Char.toLower)
    | .toUpper => return .text ((← text 0).map Char.toUpper)
    | .random => return .number (← randomNumber)
    | .seed => do
      let before := (← get).seed
      let p ← run (MonadState.get : Run State)
      let x ← number 0
      let next := if args.isEmpty then p.files.now / Nat.pow 10 9 else (whole (exact x)).toNat
      modify fun m => { m with seed := next, randomState := next }
      return .ofNat before
    | .run => do
      let command ← text 0
      flush
      let ending ← run (child (shellFor launch command))
      return .ofNat (statusOf ending)
    | .close => do close launch (← text 0)
    | .flush => do
      flush
      return .number 0
    | .time => do
      let p ← run (MonadState.get : Run State)
      return .ofNat (p.files.now / Nat.pow 10 9)
    | .date => do
      let p ← run (MonadState.get : Run State)
      let format ← if args.isEmpty then pure "%c".toList else text 0
      let seconds ← if args.length < 2 then pure ((p.files.now / Nat.pow 10 9 : Nat) : Int)
        else do pure (whole (exact (← number 1)))
      return .text (Calendar.format seconds 0 format)
    | f => do
      let x ← number 0
      let y ← number 1
      return .number ((computed f x y).getD 0)
termination_by structural fuel => fuel

def exec (launch : Launcher) : (fuel : Nat) → Statement → Act Flow
  | 0, _ => run (throw .exhausted)
  | fuel + 1, s => do
    let send (cs : Octets) (target : Option (Direction × Expression)) : Act Flow := do
      match target with
      | none => put cs
      | some (d, e) =>
        let v ← eval launch fuel e
        putTo d (v.toText (← get).conversion) cs
      return .onward
    match s with
    | .expression e => do
      let _ ← eval launch fuel e
      return .onward
    | .print args target => do
      let m ← get
      let cs ← if args.isEmpty then recordText else do
        let values ← evalAll launch fuel args
        let printing := (← get).printing
        pure (List.intercalate (globalText (← get) "OFS") (values.map (·.toText printing)))
      send (cs ++ globalText m "ORS") target
    | .printFormat args target => do
      let values ← evalAll launch fuel args
      send (← formattedAll target.isNone values) target
    | .block body => execAll launch fuel body
    | .choice c a b => do
      if (← eval launch fuel c).holds then exec launch fuel a else exec launch fuel b
    | .whileLoop c body => loop launch fuel (some c) none body
    | .untilLoop body c => do
      match ← exec launch fuel body with
      | .broken => return .onward
      | .returned v => return .returned v
      | _ => loop launch fuel (some c) none body
    | .forLoop start c next body => do
      if let some s := start then let _ ← exec launch fuel s
      loop launch fuel c next body
    | .forEach name array body => do
      let keys := (← table (← arrayNumber array)).keys
      loopOver launch fuel name body keys
    | .next => jump .next
    | .nextFile => jump .nextFile
    | .exit status => do
      match status with
      | none => jump .exit
      | some e =>
        let v ← eval launch fuel e
        modify fun m => { m with status := ((whole (exact v.toFloat)) % 256).toNat }
        jump .exit
    | .return value => do
      match value with
      | none => return .returned .nothing
      | some e => return .returned (← eval launch fuel e)
    | .break => return .broken
    | .continue => return .continued
    | .delete name index => do
      let n ← arrayNumber name
      match index with
      | none => setTable n {}
      | some es =>
        let key ← indexOf launch fuel es
        setTable n ((← table n).erase key)
      return .onward
termination_by structural fuel => fuel

/-- Run statements up to one that does not go on. -/
def execAll (launch : Launcher) : (fuel : Nat) → List Statement → Act Flow
  | 0, _ => run (throw .exhausted)
  | _ + 1, [] => return .onward
  | fuel + 1, s :: rest => do
    match ← exec launch fuel s with
    | .onward => execAll launch fuel rest
    | flow => return flow
termination_by structural fuel => fuel

def loop (launch : Launcher) : (fuel : Nat) → Option Expression → Option Statement → Statement →
    Act Flow
  | 0, _, _, _ => run (throw .exhausted)
  | fuel + 1, c, next, body => do
    run stepOn
    let goesOn ← match c with
      | some e => do pure (← eval launch fuel e).holds
      | none => pure true
    if !goesOn then return .onward
    else
      match ← exec launch fuel body with
      | .broken => return .onward
      | .returned v => return .returned v
      | _ =>
        if let some s := next then let _ ← exec launch fuel s
        loop launch fuel c next body
termination_by structural fuel => fuel

def loopOver (launch : Launcher) : (fuel : Nat) → String → Statement → List Octets → Act Flow
  | 0, _, _, _ => run (throw .exhausted)
  | _ + 1, _, _, [] => return .onward
  | fuel + 1, name, body, key :: rest => do
    run stepOn
    setVariable name (.ofInput key)
    match ← exec launch fuel body with
    | .broken => return .onward
    | .returned v => return .returned v
    | _ => loopOver launch fuel name body rest
termination_by structural fuel => fuel

end

/-! ## Rules -/

/-- How deep evaluation may go. -/
def depth : Nat := Nat.pow 2 40

def runBody (launch : Launcher) (body : Option Statement) : Act Unit := do
  match body with
  | some s => do let _ ← exec launch depth s
  | none =>
    let cs ← recordText
    put (cs ++ globalText (← get) "ORS")

def tryRule (launch : Launcher) (n : Nat) (r : Rule) : Act Unit := do
  match r.condition with
  | .start | .finish => return
  | .always => runBody launch r.body
  | .holds e => if (← eval launch depth e).holds then runBody launch r.body
  | .range first last =>
    let within := (← get).ranges.contains n
    if within || (← eval launch depth first).holds then
      let ends := (← eval launch depth last).holds
      modify fun m => { m with
        ranges := if ends then m.ranges.filter (· != n) else n :: m.ranges.filter (· != n) }
      runBody launch r.body

def tryRules (launch : Launcher) (rules : List (Nat × Rule)) : Act Unit :=
  rules.forM fun (n, r) => tryRule launch n r

/-- Go on behind something that was left; tells whether that is wanted. -/
def caught (act : Act Unit) : Act Bool := fun m => do
  match ← act m with
  | (.ok (), m) => return (.ok true, m)
  | (.error .exit, m) => return (.ok false, { m with locals := [] })
  | (.error .next, m) => return (.ok true, { m with locals := [] })
  | (.error .nextFile, m) => return (.ok true, { m with locals := [], input := none })

/-- Try the rules on each record; tells whether the end was reached. -/
def eachRecord (launch : Launcher) (rules : List (Nat × Rule)) : (fuel : Nat) → Act Bool
  | 0 => run (throw .exhausted)
  | fuel + 1 => do
    match ← nextRecord (Nat.pow 2 20) with
    | none => return true
    | some cs =>
      run stepOn
      setRecord cs
      countRecord true
      if ← caught (tryRules launch rules) then eachRecord launch rules fuel else return false

/-- Run the rules for the start or for the end; tells whether to go on. -/
def runAll (launch : Launcher) (bodies : List (Option Statement)) : Act Bool :=
  caught (bodies.forM fun body => runBody launch body)

def closeAll (launch : Launcher) : (fuel : Nat) → Act Unit
  | 0 => return
  | fuel + 1 => do
    match (← get).sinks with
    | [] => return
    | (name, _) :: _ =>
      let _ ← closeSink launch name
      closeAll launch fuel

/-- The bodies of the rules for the start, or for the end. -/
def bodiesOf (p : Program) (start : Bool) : List (Option Statement) :=
  p.rules.filterMap fun r => match r.condition, start with
    | .start, true | .finish, false => some r.body
    | _, _ => none

def runProgram (launch : Launcher) (p : Program) : Act Nat := do
  let rules := (p.rules.zipIdx.map fun (r, n) => (n, r)).filter fun (_, r) => match r.condition with
    | .start | .finish => false
    | _ => true
  let endings := bodiesOf p false
  let goesOn ← runAll launch (bodiesOf p true)
  if goesOn && !(rules.isEmpty && endings.isEmpty) then
    let _ ← eachRecord launch rules (Nat.pow 2 40)
  let _ ← runAll launch endings
  closeAll launch ((← get).sinks.length + 1)
  flush
  return (← get).status

/-! ## The program -/

/-- What the arguments say in front of the operands. -/
structure Wish where
  separator : Option Octets := none
  assignments : List Octets := []
  files : List Octets := []
  operands : List Octets := []

def wishOf : (fuel : Nat) → Wish → List Octets → Except Octets Wish
  | 0, w, _ => .ok w
  | _ + 1, w, [] => .ok w
  | fuel + 1, w, arg :: rest =>
    let valued (text : Octets) (take : Octets → Wish) : Except Octets Wish :=
      match text, rest with
      | [], v :: rest => wishOf fuel (take v) rest
      | [], [] => .error ("option requires an argument -- ".toList ++ arg.drop 1)
      | text, rest => wishOf fuel (take text) rest
    match arg with
    | ['-', '-'] => .ok { w with operands := rest }
    | ['-'] => .ok { w with operands := arg :: rest }
    | '-' :: 'F' :: text => valued text fun v => { w with separator := some v }
    | '-' :: 'v' :: text => valued text fun v => { w with assignments := w.assignments ++ [v] }
    | '-' :: 'f' :: text => valued text fun v => { w with files := w.files ++ [v] }
    | '-' :: 'W' :: text => valued text fun _ => w
    | '-' :: _ => .error ("not an option: ".toList ++ arg)
    | _ => .ok { w with operands := arg :: rest }

/-- The variables that every program begins with. -/
def beginning : List (String × Value) := [
  ("FS", .text [' ']), ("OFS", .text [' ']), ("ORS", .text ['\n']), ("RS", .text ['\n']),
  ("SUBSEP", .text ['\x1c']), ("CONVFMT", .text "%.6g".toList), ("OFMT", .text "%.6g".toList),
  ("NR", .number 0), ("FNR", .number 0), ("FILENAME", .text []), ("RSTART", .number 0),
  ("RLENGTH", .number (-1))]

/-- Set the variables that a program begins with. -/
def prepare (w : Wish) (operands : List Octets) : Act Unit := do
  for (name, v) in beginning do setSlot name (.value v)
  let args := "awk".toList :: operands
  let n ← arrayNumber "ARGV"
  setTable n (args.zipIdx.foldl (fun t (arg, k) => t.set (Octets.ofNat k) (.ofInput arg)) {})
  setSlot "ARGC" (.value (.ofNat args.length))
  let p ← run (MonadState.get : Run State)
  let n ← arrayNumber "ENVIRON"
  setTable n (p.environment.foldl (fun t (name, value) =>
    t.set (Octets.ofString name) (.ofInput value)) {})
  if let some cs := w.separator then
    setVariable "FS" (.text (((quoted (cs.length + 2) [] (cs ++ ['"'])).map (·.1)).getD cs))
  for text in w.assignments do
    if let some (name, value) := assignment? text then setVariable name (.ofInput value)

def awk (launch : Launcher) (args : List Octets) : Run Nat := do
  match wishOf (args.length + 1) {} args with
  | .error text => refuse 2 text
  | .ok w =>
    let texts ← w.files.mapM fun file => do
      match ← contentOf file with
      | .ok cs => return bare cs
      | .error e => refuse 2 ("cannot open \"".toList ++ file ++ "\" (".toList ++
          Octets.ofString (meaning e) ++ [')'])
    if let some text := w.assignments.find? fun text => (assignment? text).isNone then
      refuse 2 ("improper assignment: -v ".toList ++ text)
    let (text, operands) ← match texts, w.operands with
      | [], [] => do
        complain "Usage: mawk [Options] [Program] [file ...]"
        throw (.exit 2)
      | [], text :: operands => pure (text, operands)
      | texts, operands => pure (List.intercalate ['\n'] texts, operands)
    match read text with
    | .error text => refuse 2 text
    | .ok program =>
      let start : Machine := { functions := Std.HashMap.ofList program.functions }
      let act : Act Nat := do
        prepare w operands
        runProgram launch program
      match ← act start with
      | (.ok status, _) => return status
      | (.error _, m) => return m.status

end BoardRig.Toolbox.Records
