/-
Reading a line into variables, and options out of arguments.

A line is taken apart at the separators; the last variable gets what is left
of it. What a backslash precedes is no separator, and a line that ends in a
backslash goes on with the next one.
-/
import BoardRig.Shell.Variable

namespace BoardRig.Shell

namespace LineReading

/-- A piece of a line. -/
inductive Item where
  | plain (octet : Char)
  | escaped (octet : Char)
  /-- Where something escaped was taken out. -/
  | edge
deriving DecidableEq, Repr

/-- Add the pieces of a line to those before it, the last first; tells whether
the next line belongs to it. -/
def itemsOf (raw : Bool) (before : List Item) : Octets → List Item × Bool
  | [] => (before, false)
  | c :: rest =>
    if c = '\n' then (before, false)
    else if c = '\x00' then itemsOf raw before rest
    else if c = '\\' && !raw then
      match rest with
      | [] => (before, false)
      | d :: rest =>
        if d = '\n' then (.edge :: before, true)
        else itemsOf raw (.edge :: .escaped d :: before) rest
    else itemsOf raw (.plain c :: before) rest

/-- The fields of a line while it is taken apart. -/
structure Progress where
  /-- The fields that are complete, the last first. -/
  fields : List Octets := []
  /-- The field that grows, in reverse. -/
  current : Octets := []
  /-- How many fields may still be made. -/
  left : Nat
  /-- How much of the last field stays if nothing follows. -/
  kept : Option Nat := none
  /-- Whether the last separator was a blank. -/
  blank : Bool := false

def isBlank (c : Char) : Bool := c == ' ' || c == '\t' || c == '\n'

/-- What is left behind a separator and the blanks beside it. -/
def behind (separators : Octets) (blank : Bool) : List Item → List Item
  | .plain c :: rest =>
    if !separators.contains c then .plain c :: rest
    else if isBlank c then behind separators blank rest
    else if blank then behind separators false rest
    else .plain c :: rest
  | items => items

def split (separators : Octets) : (fuel : Nat) → List Item → Progress → Progress
  | 0, _, p => p
  | _ + 1, [], p => p
  | fuel + 1, .edge :: rest, p => split separators fuel rest { p with blank := false }
  | fuel + 1, .escaped c :: rest, p =>
    split separators fuel rest { p with current := c :: p.current }
  | fuel + 1, .plain c :: rest, p =>
    let isSeparator := separators.contains c
    let isGap := isSeparator && isBlank c
    let grown := { p with current := c :: p.current }
    if p.left = 0 then
      if isGap then
        split separators fuel rest { grown with kept := p.kept.or (some p.current.length) }
      else
        let kept := if isSeparator && p.blank then p.kept else none
        split separators fuel rest { grown with kept, blank := false }
    else if !isSeparator then split separators fuel rest grown
    else if p.current.isEmpty && isGap then split separators fuel rest { p with blank := false }
    else if p.left = 1 then
      split separators fuel rest
        { grown with left := 0, kept := some p.current.length, blank := isGap }
    else
      split separators fuel (behind separators isGap rest)
        { p with fields := p.current.reverse :: p.fields, current := [], left := p.left - 1 }

/-- The fields of a line, at most so many. -/
def fields (separators : Octets) (count : Nat) (items : List Item) : List Octets :=
  let p := split separators (items.length + 1) items { left := count }
  let last := p.current.reverse
  let last := match p.kept with
    | some n => last.take n
    | none => last
  (if p.current.isEmpty then p.fields else last :: p.fields).reverse

end LineReading

namespace State

open LineReading

/-- The pieces of lines that belong together, the last first, and whether the
end of the last one was reached. -/
def lineItems (raw : Bool) : (fuel : Nat) → List Item → Run (List Item × Bool)
  | 0, _ => throw .exhausted
  | fuel + 1, before => do
    match ← readLine 0 with
    | .error _ | .ok [] => return (before, false)
    | .ok cs =>
      match itemsOf raw before cs with
      | (items, true) => lineItems raw fuel items
      | (items, false) => return (items, cs.getLast? == some '\n')

def readInto (args : List Octets) : Run Nat := do
  let (found, names) ← splitOptions "p:r" args
  if names.isEmpty then fail "arg count"
  let (items, ended) ← lineItems (found.any (·.1 == 'r')) (Nat.pow 2 30) []
  let p ← get
  let values := fields p.separators names.length items.reverse
  for (name, n) in names.zipIdx do
    setVariable (← nameIn name) (values[n]?.getD [])
  return if ended then 0 else 1

/-! ## Options -/

def remark (text : String) : Run Unit := complain text

/-- Look for the next option among arguments. -/
def nextOption (known : Octets) (name : String) (args : List Octets) : Run Nat := do
  let p ← get
  let (place, offset) := if args.length + 1 < p.optionPlace then (1, 0)
    else (p.optionPlace, p.optionOffset)
  let left (place offset : Nat) (c : Char) (status : Nat) : Run Nat := do
    modify fun p => { p with optionPlace := place, optionOffset := offset }
    setVariable "OPTIND" (Octets.ofNat place)
    modify fun p => { p with optionPlace := place, optionOffset := offset }
    setVariable name [c]
    return status
  let started : Option (Octets × Nat) :=
    let inside := if place ≤ 1 || offset = 0 then none
      else (args[place - 2]?.map (·.drop offset)).filter (!·.isEmpty)
    match inside with
    | some letters => some (letters, place)
    | none =>
      match args[place - 1]? with
      | some ['-', '-'] => none
      | some ('-' :: c :: letters) => some (c :: letters, place + 1)
      | _ => none
  match started with
  | none =>
    let place := if args[place - 1]? == some ['-', '-'] then place + 1 else place
    left place 0 '?' 1
  | some ([], place) => left place 0 '?' 1
  | some (c :: letters, place) =>
    let quiet := known.head? == some ':'
    let size := ((args[place - 2]?.getD []).length) - letters.length
    let offset := if letters.isEmpty then 0 else size
    let isKnown := c != ':' && known.contains c
    if !isKnown then
      if quiet then setVariable "OPTARG" [c]
      else
        remark ("Illegal option -" ++ String.singleton c)
        unsetVariable "OPTARG"
      left place offset '?' 0
    else if ((known.dropWhile (· != c)).drop 1).head? == some ':' then
      match letters, args[place - 1]? with
      | [], none =>
        if quiet then
          setVariable "OPTARG" [c]
          left place 0 ':' 0
        else
          remark ("No arg for -" ++ String.singleton c ++ " option")
          unsetVariable "OPTARG"
          left place 0 '?' 0
      | [], some value =>
        setVariable "OPTARG" value
        left (place + 1) 0 c 0
      | letters, _ =>
        setVariable "OPTARG" letters
        left place 0 c 0
    else
      setVariable "OPTARG" []
      left place offset c 0

/-- Look for the next option among the arguments of the script, or those that
are given. -/
def getOptions (args : List Octets) : Run Nat := do
  match ← withoutOptions args with
  | known :: name :: rest =>
    let p ← get
    nextOption known (Octets.text name) (if rest.isEmpty then p.arguments else rest)
  | _ => fail "Usage: getopts optstring var [arg...]"

end State

end BoardRig.Shell
