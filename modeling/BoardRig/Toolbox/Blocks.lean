/-
Programs that copy in blocks, or cut files into pieces.
-/
import BoardRig.Toolbox.Options

namespace BoardRig.Toolbox.Blocks

open Shell State

/-! ## Blocks -/

/-- The operands of the form `name=value`. -/
def values (args : List Octets) : Run (List (String × Octets)) :=
  args.mapM fun arg => do
    match Text.cutAt? '=' arg with
    | some (name, value) =>
      if ["if", "of", "bs", "ibs", "obs", "cbs", "count", "skip", "seek", "iseek", "oseek", "conv",
          "status", "iflag", "oflag"].contains (String.ofList name) then
        return (String.ofList name, value)
      else misused 1 ("unrecognized operand ".toList ++ Quote.text arg)
    | none => misused 1 ("unrecognized operand ".toList ++ Quote.text arg)

def product? (cs : Octets) : Option Nat :=
  (Text.split 'x' cs).foldl (fun n part => do
    let size ← match part.getLast? with
      | some 'c' => Octets.nat? part.dropLast
      | some 'w' => (Octets.nat? part.dropLast).map (· * 2)
      | _ => sized? part
    return (← n) * size) (some 1)

def converted (conversions : List Octets) (size : Nat) (cs : Octets) : Octets :=
  conversions.foldl (fun cs conversion =>
    match String.ofList conversion with
    | "ucase" => cs.map Char.toUpper
    | "lcase" => cs.map Char.toLower
    | "swab" =>
      let rec swap : Octets → Octets
        | a :: b :: rest => b :: a :: swap rest
        | rest => rest
      swap cs
    | "sync" => cs ++ List.replicate (size - cs.length) '\x00'
    | _ => cs) cs

/-- How many blocks were copied, whole ones and parts. -/
structure Tally where
  whole : Nat := 0
  part : Nat := 0
  octets : Nat := 0

def copyBlocks (size : Nat) (change : Octets → Octets) : (fuel : Nat) → (count : Option Nat) →
    Tally → Run (Tally × Option IoError)
  | 0, _, _ => throw .exhausted
  | fuel + 1, count, tally => do
    if count == some 0 then return (tally, none)
    match ← readReady 0 size with
    | .error e =>
      faultAt "error reading 'standard input'".toList e
      return (tally, some e)
    | .ok [] => return (tally, none)
    | .ok cs =>
      stepOn
      let out := change cs
      if let some e ← writeTo 1 out then return (tally, some e)
      let tally := if cs.length = size then { tally with whole := tally.whole + 1 }
        else { tally with part := tally.part + 1 }
      copyBlocks size change fuel (count.map (· - 1))
        { tally with octets := tally.octets + out.length }

def dd (_ : Launcher) (args : List Octets) : Run Nat := do
  let g ← given [] args
  let given ← values g.operands
  let number (names : List String) (default : Nat) : Run Nat := do
    match given.reverse.find? fun v => names.contains v.1 with
    | none => return default
    | some (_, text) =>
      match product? text with
      | some n => return n
      | none => refuse 1 ("invalid number: ".toList ++ Quote.text text)
  let size ← number ["bs", "ibs"] 512
  if size = 0 then refuse 1 ("invalid number: ".toList ++ Quote.text ['0'])
  let skip ← number ["skip", "iseek"] 0
  let seek ← number ["seek", "oseek"] 0
  let outputSize ← number ["bs", "obs"] 512
  let hasCount := given.any (·.1 == "count")
  let count ← number ["count"] 0
  let lists (name : String) : List Octets :=
    (given.filter (·.1 == name)).flatMap fun v => Text.split ',' v.2
  let conversions := lists "conv"
  if let some file := given.reverse.lookup "if" then
    let p ← get
    match ← openSource (p.pathOf file) with
    | .ok opened => modify (withDescriptor 0 opened)
    | .error e =>
      faultAt ("failed to open ".toList ++ Quote.always file) e
      throw (.exit 1)
  let inOctets := (lists "iflag").contains "skip_bytes".toList
  if let some file := given.reverse.lookup "of" then
    let p ← get
    let kept := conversions.contains "notrunc".toList
    match ← openSink (p.pathOf file) (!kept && seek = 0) ((lists "oflag").contains "append".toList)
        true with
    | .ok opened =>
      modify (withDescriptor 1 opened)
      modify fun p =>
        match p.openFileOf? 1 with
        | some (n, f) =>
          match f.target with
          | .node node =>
            let place := seek * outputSize
            let files := match p.files.content? node with
              | some (.file bytes) =>
                if kept then p.files
                else p.files.replace node (.file (bytes.take place ++
                  List.replicate (place - bytes.length) 0))
              | _ => p.files
            { p with toKernel := { p.toKernel with files }.modifyOpen n ({ · with offset := place }) }
          | .pipe _ => p
        | none => p
    | .error e =>
      faultAt ("failed to open ".toList ++ Quote.always file) e
      throw (.exit 1)
  let skipped := if inOctets then skip else skip * size
  if 0 < skipped then discard (readSome 0 skipped)
  let limit := if hasCount then some count else none
  let (tally, failure) ←
    if hasCount && (lists "iflag").contains "count_bytes".toList then do
      match ← readSome 0 count with
      | .ok cs =>
        let failure ← writeTo 1 (converted conversions size cs)
        pure ({ whole := cs.length / size, part := if cs.length % size = 0 then 0 else 1
                octets := cs.length : Tally }, failure)
      | .error e => pure ({}, some e)
    else if (lists "iflag").contains "fullblock".toList && hasCount then do
      match ← readSome 0 (count * size) with
      | .ok cs =>
        let failure ← writeTo 1 (converted conversions size cs)
        pure ({ whole := cs.length / size, part := if cs.length % size = 0 then 0 else 1
                octets := cs.length : Tally }, failure)
      | .error e => pure ({}, some e)
    else copyBlocks size (converted conversions size) (Nat.pow 2 30) limit {}
  if let some e := failure then
    if e != .isADirectory then
      faultAt ("error writing ".toList ++ Quote.always
        ((given.reverse.lookup "of").getD "standard output".toList)) e
  let status := given.reverse.lookup "status"
  if status != some "none".toList then
    let line (word : String) : String :=
      Nat.repr tally.whole ++ "+" ++ Nat.repr tally.part ++ " records " ++ word
    complain (line "in")
    complain (line "out")
    if status != some "noxfer".toList then
      complain (Nat.repr tally.octets ++ (if tally.octets = 1 then " byte" else " bytes") ++
        " copied, 0.0001 s, " ++ Nat.repr (tally.octets / 100) ++ " MB/s")
  return if failure.isSome then 1 else 0

/-! ## Pieces -/

/-- The endings of the names of pieces. -/
def ending (digits : Bool) (width n : Nat) : Octets :=
  let base := if digits then 10 else 26
  let first := if digits then 48 else 97
  (List.range width).reverse.map fun k => Char.ofNat (first + n / Nat.pow base k % base)

def pieces {α : Type} (size : Nat) : (fuel : Nat) → List α → List (List α)
  | 0, _ => []
  | fuel + 1, xs => if xs.isEmpty then [] else xs.take size :: pieces size fuel (xs.drop size)

def split (_ : Launcher) (args : List Octets) : Run Nat := do
  let g ← given [.valued 'l' "lines", .valued 'b' "bytes", .valued 'a' "suffix-length",
    .plain 'd' "numeric-suffixes", .long "additional-suffix" .value, .valued 'n' "number"] args
  let number (word : String) (default : Nat) : Run Nat := do
    match g.last? word with
    | none => return default
    | some text =>
      match sized? text with
      | some n =>
        if n = 0 then
          refuse 1 ("invalid number of ".toList ++ word.toList ++ ": ".toList ++ Quote.text text)
        return n
      | none =>
        refuse 1 ("invalid number of ".toList ++ word.toList ++ ": ".toList ++ Quote.text text)
  let lines ← number "lines" 1000
  let octets ← number "bytes" 0
  let width ← number "suffix-length" 2
  let parts ← number "number" 0
  match ← contentOf (g.operands.head?.getD ['-']) with
  | .error e =>
    faultAt ("cannot open ".toList ++ Quote.always (g.operands.head?.getD ['-']) ++
      " for reading".toList) e
    return 1
  | .ok cs =>
    let all := if g.has "number" then
        let size := cs.length / max 1 parts
        (pieces (max 1 size) parts (cs.take (size * (parts - 1)))) ++ [cs.drop (size * (parts - 1))]
      else if g.has "bytes" then pieces octets (cs.length + 1) cs
      else
        let lineList := Octets.lines cs
        (pieces lines (lineList.length + 1) lineList).map List.flatten
    let start := (g.operands[1]?).getD ['x']
    all.zipIdx.foldlM (fun status (piece, n) => do
      let p ← get
      let name := start ++ ending (g.has "numeric-suffixes") width n ++
        (g.last? "additional-suffix").getD []
      match ← openSink (p.pathOf name) true false false with
      | .ok opened =>
        let before ← get
        modify (withDescriptor 1 opened)
        emit piece
        modify fun q => { q with descriptors := before.descriptors }
        return status
      | .error e =>
        faultAbout name e
        return 1) 0

end BoardRig.Toolbox.Blocks
