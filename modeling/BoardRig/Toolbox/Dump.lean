/-
Octets as numbers, and as letters that any text can hold.

A dump shows a line for some octets at a time: where they are, and then the
octets as numbers or characters. A line like the one before it is left out.
-/
import BoardRig.Decimal.Directive
import BoardRig.Toolbox.Options

namespace BoardRig.Toolbox.Dump

open Shell State

/-! ## Dumps -/

/-- How octets are shown. -/
inductive Style where
  | signed
  | unsigned
  | octal
  | hexadecimal
  | character
  | name
  | real
deriving DecidableEq

/-- How many octets a thing has, and how it is shown. -/
structure Kind where
  style : Style
  size : Nat
  /-- Whether the characters stand at the end of the line as well. -/
  traced : Bool := false

/-- The names of the octets that cannot be seen. -/
def names : List String := [
  "nul", "soh", "stx", "etx", "eot", "enq", "ack", "bel", "bs", "ht", "nl", "vt", "ff", "cr",
  "so", "si", "dle", "dc1", "dc2", "dc3", "dc4", "nak", "syn", "etb", "can", "em", "sub", "esc",
  "fs", "gs", "rs", "us", "sp"]

/-- How many characters a thing takes at most. -/
def Kind.width (k : Kind) : Nat :=
  match k.style with
  | .character | .name => 3
  | .hexadecimal => 2 * k.size
  | .octal => (8 * k.size + 2) / 3
  | .unsigned => (Nat.toDigits 10 (Nat.pow 2 (8 * k.size) - 1)).length
  | .signed => (Nat.toDigits 10 (Nat.pow 2 (8 * k.size - 1))).length + 1
  | .real => if k.size = 4 then 15 else 24

def character (c : Char) : Octets :=
  let signs : List (Char × Char) := [
    ('\x00', '0'), ('\x07', 'a'), ('\x08', 'b'), ('\x0c', 'f'), ('\n', 'n'), ('\r', 'r'),
    ('\t', 't'), ('\x0b', 'v')]
  match signs.lookup c with
  | some letter => ['\\', letter]
  | none => if Quote.isWritable c then [c] else Octets.padLeft 3 '0' (Nat.toDigits 8 c.toNat)

/-- An octet by its name; the highest bit does not count. -/
def name (c : Char) : Octets :=
  let n := c.toNat % 128
  if n = 127 then "del".toList
  else match names[n]? with
    | some text => text.toList
    | none => [Char.ofNat n]

/-- The number with a fraction that the bits of a word stand for. -/
def realOf (size n : Nat) : Decimal.Number :=
  let (fraction, powers, bias) : Nat × Nat × Nat :=
    if size = 4 then (23, 8, 127) else (52, 11, 1023)
  let negative := decide (Nat.pow 2 (8 * size - 1) ≤ n)
  let power := n / Nat.pow 2 fraction % Nat.pow 2 powers
  let rest := n % Nat.pow 2 fraction
  if power = Nat.pow 2 powers - 1 then if rest = 0 then .infinite negative else .nan negative
  else
    let (mantissa, shift) : Nat × Int := if power = 0 then (rest, 1 - (bias + fraction : Nat))
      else (rest + Nat.pow 2 fraction, (power : Int) - (bias + fraction : Nat))
    .finite negative (mantissa * Nat.pow 2 shift.toNat) (Nat.pow 2 (-shift).toNat)

/-- The shortest text of a number that is read back as it. -/
def shortest (size : Nat) (n : Nat) : Octets :=
  let value := realOf size n
  let least := if size = 4 then 6 else 15
  let format : Decimal.Precision := if size = 4 then ⟨24, -149, 104⟩ else .double
  let text (digits : Nat) : Octets :=
    ({ precision := some digits } : Decimal.Directive).real .double 'g' value
  let isExact (cs : Octets) : Bool :=
    match Decimal.Number.read? format cs with
    | some (.finite _ num den, _) =>
      match value with
      | .finite _ a b => num * b == a * den
      | _ => true
    | _ => true
  match ((List.range 4).map fun k => text (least + k)).find? isExact with
  | some cs => cs
  | none => text (least + 3)

def Kind.shown (k : Kind) (cs : Octets) : Octets :=
  let n := cs.reverse.foldl (fun n c => n * 256 + c.toNat) 0
  match k.style with
  | .character => character (cs.head?.getD '\x00')
  | .name => name (cs.head?.getD '\x00')
  | .hexadecimal => Octets.padLeft k.width '0' (Nat.toDigits 16 n)
  | .octal => Octets.padLeft k.width '0' (Nat.toDigits 8 n)
  | .unsigned => Nat.toDigits 10 n
  | .signed =>
    if Nat.pow 2 (8 * k.size - 1) ≤ n then '-' :: Nat.toDigits 10 (Nat.pow 2 (8 * k.size) - n)
    else Nat.toDigits 10 n
  | .real => shortest k.size n

def kinds : (fuel : Nat) → Octets → Except Octets (List Kind)
  | 0, _ => .ok []
  | _ + 1, [] => .ok []
  | fuel + 1, c :: rest => do
    let style? : Option Style := match c with
      | 'a' => some .name
      | 'c' => some .character
      | 'd' => some .signed
      | 'f' => some .real
      | 'o' => some .octal
      | 'u' => some .unsigned
      | 'x' => some .hexadecimal
      | _ => none
    match style? with
    | none => throw [c]
    | some style =>
      let letters : List (Char × Nat) := if style = .real then
          [('F', 4), ('D', 8), ('L', 16)] else [('C', 1), ('S', 2), ('I', 4), ('L', 8)]
      let (size, rest) :=
        if style = .character || style = .name then (1, rest)
        else
          match rest with
          | d :: more =>
            match letters.lookup d with
            | some size => (size, more)
            | none =>
              if d.isDigit then Octets.leadingNat rest
              else (if style = .real then 8 else 4, rest)
          | [] => (if style = .real then 8 else 4, [])
      if !([1, 2, 4, 8].contains size) then throw (Octets.ofNat size)
      let traced := rest.head? == some 'z'
      return ⟨style, size, traced⟩ :: (← kinds fuel (if traced then rest.drop 1 else rest))

/-- The options in front of arguments that stand for kinds. -/
def shortKinds : List (String × Kind) := [
  ("a", ⟨.name, 1, false⟩), ("b", ⟨.octal, 1, false⟩), ("c", ⟨.character, 1, false⟩),
  ("d", ⟨.unsigned, 2, false⟩), ("f", ⟨.real, 4, false⟩), ("i", ⟨.signed, 4, false⟩),
  ("l", ⟨.signed, 8, false⟩), ("o", ⟨.octal, 2, false⟩), ("s", ⟨.signed, 2, false⟩),
  ("x", ⟨.hexadecimal, 2, false⟩), ("h", ⟨.hexadecimal, 2, false⟩), ("e", ⟨.real, 8, false⟩)]

def cutInto (size : Nat) : (fuel : Nat) → Octets → List Octets
  | 0, _ => []
  | fuel + 1, cs => if cs.isEmpty then [] else cs.take size :: cutInto size fuel (cs.drop size)

/-- The line of a kind for some octets of a line that could be longer. -/
def row (k : Kind) (width extra : Nat) (cs : Octets) : Octets :=
  let count := width / k.size
  let pieces := cutInto k.size (cs.length + 1) cs
  -- The room that other kinds need is given to the fields, the first ones first.
  let room (n : Nat) : Nat := extra * n / count
  let fields := pieces.zipIdx.flatMap fun (piece, n) =>
    let place := count - n
    Octets.padLeft (room place - room (place - 1) + k.width + 1) ' ' (k.shown piece)
  if k.traced then
    let missing := count - pieces.length
    let blank := List.replicate (missing * (k.width + 1) + room missing) ' '
    fields ++ blank ++ "  >".toList ++
      cs.map (fun c => if Quote.isWritable c then c else '.') ++ ['<']
  else fields

def address (base : Option Nat) (n : Nat) : Octets :=
  match base with
  | some base => Octets.padLeft (if base = 16 then 6 else 7) '0' (Nat.toDigits base n)
  | none => []

/-- The lines of a dump; `before` is the line before. -/
def dumped (ks : List Kind) (base : Option Nat) (width : Nat) (all : Bool) :
    (fuel : Nat) → (place : Nat) → (before : Octets) → (starred : Bool) → Octets → Octets
  | 0, _, _, _, _ => []
  | fuel + 1, place, before, starred, cs =>
    if cs.isEmpty then
      match base with
      | some _ => address base place ++ ['\n']
      | none => []
    else
      let line := cs.take width
      let rest := cs.drop width
      if !all && line == before && line.length = width then
        (if starred then [] else ['*', '\n']) ++
          dumped ks base width all fuel (place + line.length) line true rest
      else
        let needed := ks.foldl (fun n k => max n (width / k.size * (k.width + 1))) 0
        let shown := ks.zipIdx.flatMap fun (k, n) =>
          let start := if n = 0 then address base place
            else List.replicate (address base 0).length ' '
          start ++ row k width (needed - width / k.size * (k.width + 1)) line ++ ['\n']
        shown ++ dumped ks base width all fuel (place + line.length) line false rest

/-- Read no more octets than wanted, from one operand after another. -/
def readLimited (files : List Octets) (limit : Option Nat) : Run (Octets × Nat) :=
  files.foldlM (fun (all, status) file => do
    let wanted := (limit.map (· - all.length)).getD everything
    if wanted = 0 then return (all, status)
    let r ← reading file fun descriptor =>
      if limit.isSome then readSome descriptor wanted else readAll descriptor
    match r with
    | .ok (.ok cs) => return (all ++ cs, status)
    | .error e => do
      faultAbout file e
      return (all, 1)
    | .ok (.error e) => do
      faultAt (if e = .isADirectory then Quote.ifNeeded file ++ ": read error".toList
        else Quote.ifNeeded file) e
      return (all, 1)) ([], 0)

def od (_ : Launcher) (args : List Octets) : Run Nat := do
  let plain := shortKinds.map fun (word, _) => Flag.plain (word.toList.head?.getD 'a') word
  let g ← given (plain ++ [.valued 'A' "address-radix", .valued 't' "format",
    .valued 'j' "skip-bytes", .valued 'N' "read-bytes", .plain 'v' "output-duplicates",
    ⟨some 'w', "width", .attached⟩, .long "endian" .value]) args
  let base ← match g.last? "address-radix" with
    | none | some ['o'] => pure (some 8)
    | some ['d'] => pure (some 10)
    | some ['x'] => pure (some 16)
    | some ['n'] => pure none
    | some text =>
      refuse 1 ("invalid output address radix '".toList ++ text.take 1 ++
        "'; it must be one character from [doxn]".toList)
  let number (word short : String) : Run (Option Nat) := do
    match g.last? word with
    | none => return none
    | some text =>
      let found := match text with
        | '0' :: 'x' :: digits => Radix.read? 16 (Nat.pow 2 63) digits
        | text => sized? text
      match found with
      | some n => return some n
      | none => refuse 1 ("invalid -".toList ++ short.toList ++ " argument ".toList ++
          Quote.text text)
  let ks ← g.options.foldlM (fun ks (word, value) => do
    if word == "format" then
      match kinds (value.length + 1) value with
      | .ok more => return ks ++ more
      | .error part =>
        refuse 1 (if part.all Char.isDigit then
          "invalid type string ".toList ++ Quote.text value ++
            ";\nthis system doesn't provide a ".toList ++ part ++ "-byte integral type".toList
          else "invalid character '".toList ++ part ++ "' in type string ".toList ++
            Quote.text value)
    else return ks ++ (shortKinds.lookup word).toList) []
  let ks := if ks.isEmpty then [⟨.octal, 2, false⟩] else ks
  let skip := (← number "skip-bytes" "j").getD 0
  let limit ← number "read-bytes" "N"
  let width ← number "width" "w"
  let width := match g.last? "width" with
    | some [] => 32
    | _ => width.getD 16
  let files := if g.operands.isEmpty then [['-']] else g.operands
  let (cs, status) ← readLimited files (limit.map (· + skip))
  if cs.length < skip then
    refuse 1 "cannot skip past end of combined input".toList
  let cs := cs.drop skip
  emit (dumped ks base width (g.has "output-duplicates") (cs.length + 1) skip [] false cs)
  return status

/-! ## Letters -/

/-- The letters for numbers below 64. -/
def alphabet : Octets :=
  "ABCDEFGHIJKLMNOPQRSTUVWXYZabcdefghijklmnopqrstuvwxyz0123456789+/".toList

def encoded : Octets → Octets
  | a :: b :: c :: rest =>
    let n := a.toNat * 65536 + b.toNat * 256 + c.toNat
    [n / 262144, n / 4096 % 64, n / 64 % 64, n % 64].map (alphabet.getD · '=') ++ encoded rest
  | [a, b] =>
    let n := a.toNat * 1024 + b.toNat * 4
    [n / 4096, n / 64 % 64, n % 64].map (alphabet.getD · '=') ++ ['=']
  | [a] =>
    let n := a.toNat * 16
    [n / 64, n % 64].map (alphabet.getD · '=') ++ ['=', '=']
  | [] => []

/-- The octets that letters stand for, and whether all letters could be
read. -/
def decoded : Octets → Octets × Bool
  | [] => ([], true)
  | a :: b :: c :: d :: rest =>
    match alphabet.idxOf? a, alphabet.idxOf? b, alphabet.idxOf? c, alphabet.idxOf? d with
    | some w, some x, some y, some z =>
      let n := w * 262144 + x * 4096 + y * 64 + z
      let (cs, valid) := decoded rest
      (Char.ofNat (n / 65536) :: Char.ofNat (n / 256 % 256) :: Char.ofNat (n % 256) :: cs, valid)
    | some w, some x, some y, none =>
      let n := w * 4096 + x * 64 + y
      let (cs, valid) := decoded rest
      if d = '=' then (Char.ofNat (n / 1024) :: Char.ofNat (n / 4 % 256) :: cs, valid)
      else ([Char.ofNat (n / 1024), Char.ofNat (n / 4 % 256)], false)
    | some w, some x, none, _ =>
      let (cs, valid) := decoded rest
      if c = '=' && d = '=' then (Char.ofNat (w * 4 + x / 16) :: cs, valid)
      else ([Char.ofNat (w * 4 + x / 16)], false)
    | _, _, _, _ => ([], false)
  | _ => ([], false)

/-- Write octets as letters, or read them back. -/
def base64 (_ : Launcher) (args : List Octets) : Run Nat := do
  let g ← given [.plain 'd' "decode", .plain 'i' "ignore-garbage", .valued 'w' "wrap"] args
  let width ← match g.last? "wrap" with
    | none => pure 76
    | some text =>
      match sized? text with
      | some n => pure n
      | none => refuse 1 ("invalid wrap size: ".toList ++ Quote.text text)
  let file := g.operands.head?.getD ['-']
  if let some extra := g.operands[1]? then extraOperand 1 extra
  match ← contentOf file with
  | .error e =>
    faultAbout file e
    return 1
  | .ok cs =>
    if g.has "decode" then
      let letters := if g.has "ignore-garbage" then
          cs.filter fun c => alphabet.contains c || c == '='
        else cs.filter (· != '\n')
      let (cs, valid) := decoded letters
      emit cs
      if !valid then refuse 1 "invalid input".toList
      return 0
    else
      let letters := encoded cs
      if width = 0 then emit letters
      else emitLines (cutInto width (letters.length + 1) letters)
      return 0

end BoardRig.Toolbox.Dump
