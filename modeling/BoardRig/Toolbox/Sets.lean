/-
Characters in place of others.

A set of characters is written with ranges, classes, repetitions and escapes.
Characters of one set are replaced by those at the same place of another one,
or are removed, and repetitions of a character may become one.
-/
import BoardRig.Shell.Pattern
import BoardRig.Toolbox.Options

namespace BoardRig.Toolbox.Sets

open Shell State

/-- A part of a set. -/
inductive Part where
  | run (members : Octets)
  /-- A class by its name. -/
  | named (name : String)
  /-- A character as often as a number says, or as often as there is room. -/
  | repeated (c : Char) (count : Option Nat)

def everyOctet : Octets := (List.range 256).map Char.ofNat

def classMembers (name : String) : Option Octets :=
  (Pattern.classes.lookup name).map fun test => everyOctet.filter test

/-- A character at the front of a set, and whether it was escaped. -/
def element : Octets → Option (Char × Bool × Octets)
  | [] => none
  | '\\' :: c :: rest =>
    if Escape.isOctal c then
      let (d, rest) := Escape.numbered 8 3 (c :: rest)
      some (d, true, rest)
    else
      match Escape.control? c with
      | some d => some (if c = 'e' then 'e' else d, true, rest)
      | none => some (c, true, rest)
  | c :: rest => some (c, false, rest)

/-- A class, an equivalence or a repetition in brackets. -/
def bracketed? (cs : Octets) : Option (Except Octets (Part × Octets)) :=
  match cs with
  | '[' :: ':' :: rest =>
    let name := rest.takeWhile fun c => c != ':'
    match rest.drop name.length with
    | ':' :: ']' :: rest =>
      match classMembers (String.ofList name) with
      | some _ => some (.ok (.named (String.ofList name), rest))
      | none => some (.error ("invalid character class ".toList ++ Quote.text name))
    | _ => none
  | '[' :: '=' :: c :: '=' :: ']' :: rest => some (.ok (.run [c], rest))
  | '[' :: rest =>
    match element rest with
    | some (c, _, '*' :: rest) =>
      let digits := rest.takeWhile Char.isDigit
      match rest.drop digits.length with
      | ']' :: rest =>
        let base := if digits.head? == some '0' then 8 else 10
        let n := digits.foldl (fun n c => n * base + (c.toNat - 48)) 0
        some (.ok (.repeated c (if n = 0 then none else some n), rest))
      | _ => none
    | _ => none
  | _ => none

def parts : (fuel : Nat) → Octets → Except Octets (List Part)
  | 0, _ => .ok []
  | fuel + 1, cs =>
    match bracketed? cs with
    | some (.error e) => .error e
    | some (.ok (part, rest)) => do return part :: (← parts fuel rest)
    | none =>
      match element cs with
      | none => .ok []
      | some (a, _, '-' :: rest) =>
        match element rest with
        | some (b, _, rest) =>
          if b < a then
            .error ("range-endpoints of '".toList ++ [a, '-', b] ++
              "' are in reverse collating sequence order".toList)
          else do
            let members := (List.range (b.toNat - a.toNat + 1)).map fun n =>
              Char.ofNat (a.toNat + n)
            return .run members :: (← parts fuel rest)
        | none => do return .run [a] :: (← parts fuel ['-'])
      | some (a, _, rest) => do return .run [a] :: (← parts fuel rest)

/-- The members of parts in order; a repetition without a number takes what is
missing. -/
def members (missing : Nat) (ps : List Part) : Octets :=
  ps.flatMap fun
    | .run members => members
    | .named name => (classMembers name).getD []
    | .repeated c (some n) => List.replicate n c
    | .repeated c none => List.replicate missing c

/-- The members of a set that is to be as long as another one. -/
def membersFor (length : Nat) (ps : List Part) : Octets :=
  members (length - (members 0 ps).length) ps

/-- The sets of a replacement; small and capital letters correspond to each
other. -/
def aligned (a b : List Part) : Octets × Octets :=
  let alignedClass (p q : Part) : Option (Octets × Octets) :=
    match p, q with
    | .named "lower", .named "upper" =>
      some ((classMembers "lower").getD [], (classMembers "upper").getD [])
    | .named "upper", .named "lower" =>
      some ((classMembers "upper").getD [], (classMembers "lower").getD [])
    | _, _ => none
  match a, b with
  | [p], [q] =>
    match alignedClass p q with
    | some sets => sets
    | none =>
      let xs := members 0 a
      (xs, membersFor xs.length b)
  | a, b =>
    let xs := members 0 a
    (xs, membersFor xs.length b)

/-- Change a text: which characters go, what replaces the others, and which do
not stand twice in a row. -/
structure Change where
  removed : Char → Bool
  replaced : Char → Char
  squeezed : Char → Bool

/-- A text after a change, given the character that was written before. -/
def Change.apply (change : Change) : (before : Option Char) → (done : Octets) → Octets →
    Option Char × Octets
  | before, done, [] => (before, done.reverse)
  | before, done, c :: rest =>
    if change.removed c then change.apply before done rest
    else
      let d := change.replaced c
      if before == some d && change.squeezed d then change.apply before done rest
      else change.apply (some d) (d :: done) rest

/-- Pass on the input with a change as it comes. -/
def changing (change : Change) : (fuel : Nat) → (before : Option Char) → Run Nat
  | 0, _ => throw .exhausted
  | fuel + 1, before => do
    match ← readReady 0 block with
    | .error e =>
      fault ("read error: " ++ meaning e)
      return 1
    | .ok [] => return 0
    | .ok cs =>
      stepOn
      let (before, cs) := change.apply before [] cs
      emit cs
      changing change fuel before

/-- Replace, remove or squeeze characters. -/
def tr (_ : Launcher) (args : List Octets) : Run Nat := do
  let g ← givenWith [.plain 'c' "complement", .plain 'C' "C", .plain 'd' "delete",
    .plain 's' "squeeze-repeats", .plain 't' "truncate-set1"] false 1 args
  let deletes := g.has "delete"
  let squeezes := g.has "squeeze-repeats"
  let hinted (text : Octets) (more : String) : Run Nat := do
    faultWith text
    if more != "" then complain more
    complainWith ("Try '".toList ++ Octets.ofString (← get).name ++
      " --help' for more information.".toList)
    return 1
  let parsed (cs : Octets) : Run (List Part) := do
    match parts (cs.length + 1) cs with
    | .ok ps => return ps
    | .error e => refuse 1 e
  let least := if deletes == squeezes then 2 else 1
  match g.operands with
  | [] => hinted "missing operand".toList ""
  | [a] =>
    if least = 2 then
      hinted ("missing operand after ".toList ++ Quote.text a) (if deletes then
        "Two strings must be given when both deleting and squeezing repeats."
        else "Two strings must be given when translating.")
    else
      let xs := members 0 (← parsed a)
      let inSet (c : Char) : Bool := xs.contains c != (g.has "complement" || g.has "C")
      changing { removed := fun c => deletes && inSet c, replaced := fun c => c
                 squeezed := fun c => squeezes && inSet c } (Nat.pow 2 30) none
  | [a, b] =>
    if deletes && !squeezes then
      hinted ("extra operand ".toList ++ Quote.text b)
        "Only one string may be given when deleting without squeezing repeats."
    else
      let ps ← parsed a
      let qs ← parsed b
      let complement := g.has "complement" || g.has "C"
      let (xs, ys) := if complement then
          let xs := everyOctet.filter fun c => !(members 0 ps).contains c
          (xs, membersFor xs.length qs)
        else aligned ps qs
      if deletes then
        changing { removed := fun c => xs.contains c, replaced := fun c => c
                   squeezed := fun c => ys.contains c } (Nat.pow 2 30) none
      else
        if ys.isEmpty && !g.has "truncate-set1" then
          refuse 1 "when not truncating set1, string2 must be non-empty".toList
        let pairs := xs.zip (ys ++ if g.has "truncate-set1" then []
          else List.replicate (xs.length - ys.length) (ys.getLast?.getD ' '))
        -- Of several replacements for a character the last one counts.
        let replacement := pairs.reverse
        changing { removed := fun _ => false, replaced := fun c => (replacement.lookup c).getD c
                   squeezed := fun c => squeezes && ys.contains c } (Nat.pow 2 30) none
  | _ :: _ :: extra :: _ => hinted ("extra operand ".toList ++ Quote.text extra) ""

end BoardRig.Toolbox.Sets
