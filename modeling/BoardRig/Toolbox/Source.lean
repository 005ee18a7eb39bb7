/-
Sources that are read record by record.

A source is read in blocks. What was read of a block and is not used yet is
kept with the source, so that it can be looked at before it is taken, and be
left to others where that is possible.
-/
import BoardRig.Toolbox.Basic

namespace BoardRig.Toolbox

open Shell State

/-- A descriptor with what was read from it and not used yet. -/
structure Source where
  descriptor : Nat
  ahead : Octets := []
  /-- Whether nothing is behind that. -/
  ended : Bool := false

namespace Source

/-- A number that no descriptor has, beyond those that programs give. -/
def freeDescriptor (p : State) : Nat :=
  p.descriptors.foldl (fun n (d, _) => max n (d + 1)) (Nat.pow 2 20)

/-- Keep an open file behind a descriptor of its own. -/
def keep (opened : Nat) : Run Nat := do
  let number := freeDescriptor (← get)
  modify (withDescriptor number opened)
  return number

/-- The source that an argument names; a hyphen is the input. -/
def ofFile (file : Octets) : Run (Except IoError Source) := do
  if file = ['-'] then return .ok { descriptor := 0 }
  else
    match ← openSource ((← get).pathOf file) with
    | .ok opened => return .ok { descriptor := ← keep opened }
    | .error e => return .error e

/-- A sink for what an argument names, which is emptied, or kept. -/
def sinkFor (file : Octets) (emptied : Bool) : Run (Except IoError Nat) := do
  match ← openSink ((← get).pathOf file) emptied (!emptied) false with
  | .ok opened => return .ok (← keep opened)
  | .error e => return .error e

def blockSize : Nat := 4096

/-- Read one more block, if nothing is there that was not used. -/
def look (s : Source) : Run (Except IoError Source) := do
  if !s.ahead.isEmpty || s.ended then return .ok s
  else
    match ← readReady s.descriptor blockSize with
    | .ok cs => return .ok { s with ahead := cs, ended := cs.isEmpty }
    | .error e => return .error e

def isAtEnd (s : Source) : Run (Bool × Source) := do
  match ← s.look with
  | .ok s => return (s.ahead.isEmpty, s)
  | .error _ => return (true, { s with ended := true })

/-- What stands before the next separator, and whether there is one; nothing
if nothing is left. `before` was read already, the last block in front. -/
def nextFrom (separator : Char) : (fuel : Nat) → (before : List Octets) → Source →
    Run (Except IoError (Option (Octets × Bool) × Source))
  | 0, _, _ => throw .exhausted
  | fuel + 1, before, s => do
    match ← s.look with
    | .error e => return .error e
    | .ok s =>
      let (head, tail) := s.ahead.span (· != separator)
      match tail with
      | _ :: rest =>
        return .ok (some ((head :: before).reverse.flatten, true), { s with ahead := rest })
      | [] =>
        if s.ended then
          let all := before.reverse.flatten
          return .ok (if all.isEmpty then none else some (all, false), s)
        else nextFrom separator fuel (head :: before) { s with ahead := [] }

/-- What stands before the next separator, and whether there is one. -/
def next (separator : Char) (s : Source) : Run (Except IoError (Option (Octets × Bool) × Source)) :=
  nextFrom separator (Nat.pow 2 30) [] s

def all (s : Source) : Run (Except IoError (Octets × Source)) := do
  match ← readAll s.descriptor with
  | .ok cs => return .ok (s.ahead ++ cs, { s with ahead := [], ended := true })
  | .error e => return .error e

/-- Leave what was not used to others. -/
def leave (s : Source) : Run Unit := unread s.descriptor s.ahead.length

end Source

end BoardRig.Toolbox
