/-
Patterns: a star stands for any octets, a question mark for one, and a set in
brackets for one of its members. What is quoted stands for itself, and so does
what a backslash precedes.
-/
import BoardRig.Shell.Syntax

namespace BoardRig.Shell

/-- An octet of a word, and whether it stands for itself. -/
structure Glyph where
  octet : Char
  quoted : Bool
deriving DecidableEq, Repr

namespace Pattern

def octets (gs : List Glyph) : Octets := gs.map (·.octet)

def glyphs (quoted : Bool) (cs : Octets) : List Glyph := cs.map (⟨·, quoted⟩)

def isSign (c : Char) (g : Glyph) : Bool := g.octet == c && !g.quoted

def isPattern (gs : List Glyph) : Bool :=
  gs.any fun g => isSign '*' g || isSign '?' g || isSign '[' g

/-- A pattern in which a backslash quotes what is behind it. -/
def unescaped : List Glyph → List Glyph
  | [] => []
  | g :: rest =>
    match rest with
    | h :: more =>
      if isSign '\\' g then ⟨h.octet, true⟩ :: unescaped more else g :: unescaped (h :: more)
    | [] => [g]

def classes : List (String × (Char → Bool)) := [
  ("alnum", Char.isAlphanum), ("alpha", Char.isAlpha), ("blank", fun c => c == ' ' || c == '\t'),
  ("cntrl", fun c => c.toNat < 32 || c.toNat == 127), ("digit", Char.isDigit),
  ("graph", fun c => 32 < c.toNat && c.toNat < 127), ("lower", Char.isLower),
  ("print", fun c => 31 < c.toNat && c.toNat < 127),
  ("punct", fun c => 32 < c.toNat && c.toNat < 127 && !c.isAlphanum),
  ("space", fun c => c == ' ' || ('\t' ≤ c && c ≤ '\r')), ("upper", Char.isUpper),
  ("xdigit", fun c => c.isDigit || ('a' ≤ c && c ≤ 'f') || ('A' ≤ c && c ≤ 'F'))]

/-- The class that is named at the front of octets behind its opening bracket,
and how long its name is with all its signs. -/
def class? (cs : Octets) : Option ((Char → Bool) × Nat) :=
  classes.findSome? fun (name, test) =>
    let text := (":" ++ name ++ ":]").toList
    if text.isPrefixOf cs then some (test, text.length) else none

/-- Whether an octet is a member of the set at the front, where members were
looked at already if there is a finding, and the pattern behind the set. A
bracket that comes first is a member. -/
def member? (c : Char) : (fuel : Nat) → (found : Option Bool) → List Glyph →
    Option (Bool × List Glyph)
  | 0, _, _ => none
  | _ + 1, _, [] => none
  | fuel + 1, found, g :: rest =>
    let hit := found.getD false
    if found.isSome && isSign ']' g then some (hit, rest)
    else
      let single : Option (Bool × List Glyph) :=
        match rest with
        | dash :: high :: more =>
          if isSign '-' dash && !isSign ']' high then
            member? c fuel (some (hit || (g.octet ≤ c && c ≤ high.octet))) more
          else member? c fuel (some (hit || g.octet == c)) rest
        | rest => member? c fuel (some (hit || g.octet == c)) rest
      if isSign '[' g then
        match class? ((rest.takeWhile (!·.quoted)).map (·.octet)) with
        | some (test, size) => member? c fuel (some (hit || test c)) (rest.drop size)
        | none => single
      else single

/-- Whether an octet is in the set behind an opening bracket, and the pattern
behind the set. -/
def set? (c : Char) (pattern : List Glyph) : Option (Bool × List Glyph) :=
  match pattern with
  | [] => none
  | g :: rest =>
    if isSign '!' g then
      (member? c (rest.length + 1) none rest).map fun (hit, after) => (!hit, after)
    else member? c (pattern.length + 1) none pattern

def matchesWithin : (fuel : Nat) → List Glyph → Octets → Bool
  | 0, _, _ => false
  | _ + 1, [], cs => cs.isEmpty
  | fuel + 1, g :: pattern, cs =>
    if isSign '*' g then
      matchesWithin fuel pattern cs ||
        match cs with
        | [] => false
        | _ :: rest => matchesWithin fuel (g :: pattern) rest
    else
      match cs with
      | [] => false
      | c :: rest =>
        if isSign '?' g then matchesWithin fuel pattern rest
        else if isSign '[' g then
          match set? c pattern with
          | some (hit, after) => hit && matchesWithin fuel after rest
          | none => c == '[' && matchesWithin fuel pattern rest
        else g.octet == c && matchesWithin fuel pattern rest

def fits (pattern : List Glyph) (cs : Octets) : Bool :=
  let pattern := unescaped pattern
  matchesWithin (pattern.length + cs.length + 1) pattern cs

/-- Octets without a match at their start; of several the shortest or the
longest one goes. -/
def withoutStart (longest : Bool) (pattern : List Glyph) (cs : Octets) : Octets :=
  let lengths := List.range (cs.length + 1)
  match (if longest then lengths.reverse else lengths).find? fun n => fits pattern (cs.take n) with
  | some n => cs.drop n
  | none => cs

def withoutEnd (longest : Bool) (pattern : List Glyph) (cs : Octets) : Octets :=
  let lengths := List.range (cs.length + 1)
  match (if longest then lengths else lengths.reverse).find? fun n => fits pattern (cs.drop n) with
  | some n => cs.take n
  | none => cs

end Pattern

end BoardRig.Shell
