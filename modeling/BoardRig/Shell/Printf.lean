/-
Formatted output of a shell.

A format is written once for its arguments, and again while arguments are
left; arguments that are missing count as empty or as zero. An argument that
is no number is complained about, and counts for as much as could be read of
it.
-/
import BoardRig.Decimal.Directive
import BoardRig.Shell.Escape

namespace BoardRig.Shell.Printf

open Decimal

/-- What programs that write formats differ in. -/
structure Dialect where
  /-- How an argument is shown. -/
  shown : Octets → Octets
  /-- What is said about an argument that is no number. -/
  noNumber : String
  /-- What is said about an argument that is more than a number. -/
  notAll : String
  /-- How exact numbers with a fraction are. -/
  precision : Precision

def Dialect.ofShells : Dialect :=
  ⟨fun cs => cs, "expected numeric value", "not completely converted", .double⟩

/-- What has been written, the latest first, and what is left. -/
structure Progress where
  dialect : Dialect := .ofShells
  written : Octets := []
  arguments : List Octets
  /-- The complaints, the latest first. -/
  complaints : List Octets := []
  /-- Whether a text ended all output. -/
  ended : Bool := false
  /-- A mistake in the format. -/
  mistake : Option Octets := none

namespace Progress

def put (cs : Octets) (p : Progress) : Progress := { p with written := cs.reverse ++ p.written }

def next (p : Progress) : Option Octets × Progress :=
  match p.arguments with
  | arg :: rest => (some arg, { p with arguments := rest })
  | [] => (none, p)

def complain (arg : Octets) (text : String) (p : Progress) : Progress :=
  { p with complaints := (p.dialect.shown arg ++ ": ".toList ++ text.toList) :: p.complaints }

/-- Complain unless an argument was read to its end. -/
def check (arg rest : Octets) (inRange : Bool) (p : Progress) : Progress :=
  if rest = arg && !rest.isEmpty then p.complain arg p.dialect.noNumber
  else if !rest.isEmpty then p.complain arg p.dialect.notAll
  else if !inRange then p.complain arg "Numerical result out of range"
  else p

end Progress

/-- The number of the character behind a quote, which an argument may stand
for. -/
def characterCode? : Octets → Option Int
  | quote :: rest =>
    if quote = '"' || quote = '\'' then
      let n := ((rest.head?.map Char.toNat).getD 0 : Int)
      some (if 128 ≤ n then n - 256 else n)
    else none
  | [] => none

/-- A whole number at the front of a text, in the base that its first digits
say, and the text behind it. Without digits nothing is read. -/
def readInt (cs : Octets) : Int × Octets :=
  let (negative, digits) := Binary64.sign (cs.dropWhile Number.isGap)
  let value (base : Nat) (digits : Octets) : Int × Octets :=
    let run := digits.takeWhile fun c => (Radix.digit? base c).isSome
    let n : Int := Number.digitsValue base run
    (if negative then -n else n, digits.drop run.length)
  match digits with
  | '0' :: x :: rest =>
    if (x = 'x' || x = 'X') && ((rest.head?.bind (Radix.digit? 16)).isSome) then value 16 rest
    else value 8 digits
  | c :: _ => if c.isDigit then value 10 digits else (0, cs)
  | [] => (0, cs)

/-- The least and the greatest number with a sign in 64 bits. -/
def clampSigned (n : Int) : Int := max (-Int.pow 2 63) (min n (Int.pow 2 63 - 1))

/-- A number in 64 bits without a sign; a negative one counts from above. -/
def clampUnsigned (n : Int) : Nat :=
  if Nat.pow 2 64 ≤ n.natAbs then Nat.pow 2 64 - 1 else (n % Nat.pow 2 64).toNat

/-- The next argument as a whole number. -/
def nextInt (signed : Bool) (p : Progress) : Int × Progress :=
  match p.next with
  | (none, p) => (0, p)
  | (some arg, p) =>
    match characterCode? arg with
    | some n => (n, p)
    | none =>
      let (n, rest) := readInt arg
      let inRange := if signed then clampSigned n == n else decide (n.natAbs < Nat.pow 2 64)
      (n, p.check arg rest inRange)

def nextNumber (p : Progress) : Number × Progress :=
  match p.next with
  | (none, p) => (.ofNat 0, p)
  | (some arg, p) =>
    match characterCode? arg with
    | some n => (.ofInt n, p)
    | none =>
      match Number.read? p.dialect.precision arg with
      | none => (.ofNat 0, p.check arg arg true)
      | some (n, rest) =>
        let digits := arg.any fun c => c.isDigit
        let inRange := match n with
          | .infinite _ => !digits
          | .finite _ 0 _ => !(arg.takeWhile fun c => c != 'e' && c != 'E').any fun c =>
              '1' ≤ c && c ≤ '9'
          | _ => true
        (n, p.check arg rest inRange)

def flags (d : Directive) : Octets → Directive × Octets
  | '-' :: rest => flags { d with left := true } rest
  | '+' :: rest => flags { d with plus := true } rest
  | ' ' :: rest => flags { d with blank := true } rest
  | '#' :: rest => flags { d with alternate := true } rest
  | '0' :: rest => flags { d with zeros := true } rest
  | rest => (d, rest)

/-- A width or a precision: digits, or a star for the next argument. -/
def extent (cs : Octets) (p : Progress) : Int × Octets × Progress :=
  match cs with
  | '*' :: rest =>
    let (n, p) := nextInt true p
    (n, rest, p)
  | cs =>
    let (n, rest) := Octets.leadingNat cs
    (n, rest, p)

/-- The flags, the width and the precision of a directive. -/
def directive (cs : Octets) (p : Progress) : Directive × Octets × Progress :=
  let (d, cs) := flags {} cs
  let (width, cs, p) := extent cs p
  let d := { d with left := d.left || width < 0, width := width.natAbs }
  match cs with
  | '.' :: cs =>
    let (precision, cs, p) := extent cs p
    ({ d with precision := if precision < 0 then none else some precision.toNat }, cs, p)
  | cs => (d, cs, p)

def pass : (fuel : Nat) → Octets → Progress → Progress
  | 0, _, p => p
  | _ + 1, [], p => p
  | fuel + 1, '\\' :: rest, p =>
    let (c, rest) := Escape.escaped rest
    pass fuel rest (p.put [c])
  | fuel + 1, '%' :: '%' :: rest, p => pass fuel rest (p.put ['%'])
  | fuel + 1, '%' :: start, p =>
    let (d, rest, p) := directive start p
    match rest with
    | [] => { p with mistake := some "missing format character".toList }
    | letter :: rest =>
      if letter = 's' then
        let (arg, p) := p.next
        pass fuel rest (p.put (d.text (arg.getD [])))
      else if letter = 'b' then
        let (arg, p) := p.next
        let (cs, ended) := Escape.expanded Escape.escapedLonger (arg.getD [])
        let p := p.put (d.text cs)
        if ended then { p with ended := true } else pass fuel rest p
      else if letter = 'c' then
        let (arg, p) := p.next
        pass fuel rest (p.put (d.text [((arg.getD []).head?).getD '\x00']))
      else if letter = 'd' || letter = 'i' then
        let (n, p) := nextInt true p
        pass fuel rest (p.put (d.signed (clampSigned n)))
      else if ['o', 'u', 'x', 'X'].contains letter then
        let (n, p) := nextInt false p
        pass fuel rest (p.put (d.unsigned letter (clampUnsigned n)))
      else if ['a', 'e', 'f', 'g'].contains letter.toLower then
        let (n, p) := nextNumber p
        pass fuel rest (p.put (d.real .double letter n))
      else
        let size := start.length - rest.length
        { p with mistake := some ('%' :: start.take size ++ ": invalid directive".toList) }
  | fuel + 1, c :: rest, p => pass fuel rest (p.put [c])

/-- Write the format until no argument is left. -/
def passes (format : Octets) : (fuel : Nat) → Progress → Progress
  | 0, p => p
  | fuel + 1, p =>
    let q := pass (format.length + 1) format p
    if q.ended || q.mistake.isSome || q.arguments.isEmpty ||
        q.arguments.length = p.arguments.length then q
    else passes format fuel q

def run (format : Octets) (arguments : List Octets) : Progress :=
  passes format (arguments.length + 1) { arguments }

end BoardRig.Shell.Printf
