/-
Finding what a regular expression matches.

Of all matches in a text the one that begins first counts, and of those the
longest. For one text the expression is prepared: in place of characters it
then holds the sets of places where they stand. A set of places is a number
whose bits are the places, so that all matches from many places are found at
once. What each group matches is decided from left to right, always in favour
of the longest.

An expression that asks for a text again is matched by trying all ways in
order.
-/
import BoardRig.Regex.Syntax

namespace BoardRig.Regex

/-- What was found: where it begins and ends, and the same for its groups. -/
structure Found where
  start : Nat
  finish : Nat
  groups : List (Nat × Nat × Nat)

namespace Found

def group? (f : Found) (text : Octets) (n : Nat) : Option Octets :=
  if n = 0 then some ((text.take f.finish).drop f.start)
  else (f.groups.lookup n).map fun (a, b) => (text.take b).drop a

end Found

/-! ## Sets of places -/

/-- An expression with sets of places for the characters of a text. -/
inductive Prepared where
  /-- Across a character at one of some places. -/
  | across (places : Nat)
  /-- Stay at one of some places. -/
  | stay (places : Nat)
  | sequence (a b : Prepared)
  | either (a b : Prepared)
  | times (a : Prepared) (least : Nat) (most : Option Nat)
  | group (number : Nat) (a : Prepared)

/-- The places of a text where something holds of the character. -/
def placesOf (holds : Char → Bool) (text : Octets) : Nat :=
  (text.foldl (fun (set, bit) c => (if holds c then set ||| bit else set, bit <<< 1)) (0, 1)).1

/-- The places of a text where something holds of the characters around. -/
def placesAt (e : Edge) : (bit : Nat) → (before : Option Char) → Octets → Nat
  | bit, before, [] => if Edge.holds e before none then bit else 0
  | bit, before, c :: rest =>
    (if Edge.holds e before (some c) then bit else 0) ||| placesAt e (bit <<< 1) (some c) rest

def allPlaces (text : Octets) : Nat := Nat.pow 2 (text.length + 1) - 1

def prepared (text : Octets) : Regex → Prepared
  | .empty => .stay (allPlaces text)
  | .single holds => .across (placesOf holds text)
  | .edge e => .stay (placesAt e 1 none text)
  | .sequence a b => .sequence (prepared text a) (prepared text b)
  | .either a b => .either (prepared text a) (prepared text b)
  | .times a least most => .times (prepared text a) least most
  | .group n a => .group n (prepared text a)
  | .again _ => .stay 0

namespace Prepared

/-- Go on so many times. -/
def exactly (step : Nat → Nat) : Nat → Nat → Nat
  | 0, set => set
  | n + 1, set => if set = 0 then 0 else exactly step n (step set)

/-- Go on at most so many times, until nothing is new. -/
def upTo (step : Nat → Nat) : Nat → Nat → Nat
  | 0, set => set
  | n + 1, set =>
    let next := set ||| step set
    if next = set then set else upTo step n next

/-- The places at which matches from some places can end, in a text of some
length. -/
def ends (length : Nat) : Prepared → Nat → Nat
  | across places, set => (set &&& places) <<< 1
  | stay places, set => set &&& places
  | sequence a b, set =>
    let middle := ends length a set
    if middle = 0 then 0 else ends length b middle
  | either a b, set => ends length a set ||| ends length b set
  | times a least most, set =>
    let rest := match most with
      | some n => min (n - least) (length + 1)
      | none => length + 1
    upTo (ends length a) rest (exactly (ends length a) least set)
  | group _ a, set => ends length a set

/-- Whether there is a match between two places. -/
def spans (length : Nat) (r : Prepared) (i j : Nat) : Bool :=
  (ends length r (1 <<< i)).testBit j

/-- The greatest place up to `j` at which a match of `r` from `i` on can end such
that something holds of it. -/
def lastEnd? (length : Nat) (r : Prepared) (i j : Nat) (holds : Nat → Bool) : Option Nat :=
  let set := ends length r (1 <<< i)
  ((List.range (j + 1 - i)).map fun k => j - k).find? fun k => set.testBit k && holds k

/-- The groups of a match of `r` between two places, those that matched last in
front. -/
def groups (length : Nat) : Prepared → (i j : Nat) → List (Nat × Nat × Nat)
  | across _, _, _ | stay _, _, _ => []
  | sequence a b, i, j =>
    match lastEnd? length a i j fun k => spans length b k j with
    | some k => groups length b k j ++ groups length a i k
    | none => []
  | either a b, i, j => if spans length a i j then groups length a i j else groups length b i j
  | group n a, i, j => groups length a i j ++ [(n, i, j)]
  | times a least most, i, j =>
    let rec rounds : (fuel : Nat) → (least : Nat) → (most : Option Nat) → (i : Nat) →
        List (Nat × Nat × Nat)
      | 0, _, _, _ => []
      | fuel + 1, least, most, i =>
        if most == some 0 || (i = j && least = 0) then []
        else
          let rest : Prepared := times a (least - 1) (most.map (· - 1))
          match lastEnd? length a i j fun k => (i < k || 0 < least) && spans length rest k j with
          | some k => rounds fuel (least - 1) (most.map (· - 1)) k ++ groups length a i k
          | none => []
    if i = j && least = 0 then groups length a i j
    else rounds (j - i + least + 1) least most i

end Prepared

/-! ## Texts that are asked for again -/

/-- What groups have matched so far, the latest first. -/
abbrev Captured := List (Nat × Nat × Nat)

/-- Try all ways to match from a place on, until one goes on to an end. -/
def attempt (text : Array Char) : (fuel : Nat) → Regex → Nat → Captured →
    (Nat → Captured → Option (Nat × Captured)) → Option (Nat × Captured)
  | 0, _, _, _, _ => none
  | fuel + 1, r, i, caps, go =>
    match r with
    | .empty => go i caps
    | .single holds =>
      match text[i]? with
      | some c => if holds c then go (i + 1) caps else none
      | none => none
    | .edge e =>
      let before := if i = 0 then none else text[i - 1]?
      if Edge.holds e before text[i]? then go i caps else none
    | .sequence a b => attempt text fuel a i caps fun k caps => attempt text fuel b k caps go
    | .either a b => (attempt text fuel a i caps go).or (attempt text fuel b i caps go)
    | .group n a => attempt text fuel a i caps fun k caps => go k ((n, i, k) :: caps)
    | .again n =>
      match caps.lookup n with
      | none => none
      | some (a, b) =>
        let size := b - a
        if (List.range size).all fun k => text[a + k]? == text[i + k]? && (text[i + k]?).isSome
        then go (i + size) caps else none
    | .times a least most =>
      let more : Option (Nat × Captured) :=
        if most == some 0 then none
        else attempt text fuel a i caps fun k caps =>
          if k = i && least = 0 then none
          else attempt text fuel (.times a (least - 1) (most.map (· - 1))) k caps go
      match more with
      | some found => some found
      | none => if least = 0 then go i caps else none

/-! ## Search -/

/-- An expression that is ready for a text. -/
structure Subject where
  text : Octets
  length : Nat
  expression : Regex
  prepared : Prepared

/-- Make an expression ready for a text. -/
def subject (r : Regex) (text : Octets) : Subject :=
  ⟨text, text.length, r, if r.remembers then .stay 0 else prepared text r⟩

namespace Subject

/-- The first match by trying all ways. -/
def tried (s : Subject) (first : Nat) : Option Found :=
  let text := s.text.toArray
  ((List.range (s.length + 1)).drop first).findSome? fun i =>
    (attempt text (16 * s.length + 4096) s.expression i [] fun k caps => some (k, caps)).map
      fun (k, caps) => ⟨i, k, caps⟩

def find? (s : Subject) (first : Nat) : Option Found :=
  if s.expression.remembers then s.tried first
  else
    let all := ((Nat.pow 2 (s.length + 1) - 1) >>> first) <<< first
    if s.prepared.ends s.length all = 0 then none
    else
      (((List.range (s.length + 1)).drop first).find? fun i =>
        s.prepared.ends s.length (1 <<< i) != 0).map fun i =>
          let finish := (s.prepared.ends s.length (1 <<< i)).log2
          ⟨i, finish, s.prepared.groups s.length i finish⟩

def has (s : Subject) : Bool :=
  if s.expression.remembers then (s.tried 0).isSome
  else s.prepared.ends s.length (Nat.pow 2 (s.length + 1) - 1) != 0

/-- The longest match that begins at a place. -/
def findAt? (s : Subject) (i : Nat) : Option Found :=
  if s.expression.remembers then
    (attempt s.text.toArray (16 * s.length + 4096) s.expression i [] fun k caps =>
      some (k, caps)).map fun (k, caps) => ⟨i, k, caps⟩
  else
    let set := s.prepared.ends s.length (1 <<< i)
    if set = 0 then none
    else some ⟨i, set.log2, s.prepared.groups s.length i set.log2⟩

end Subject

/-- All matches from left to right; an empty one does not touch the one
before. -/
def Subject.all (s : Subject) : List Found :=
  let rec go : (fuel : Nat) → (first : Nat) → (before : Option Nat) → List Found
    | 0, _, _ => []
    | fuel + 1, first, before =>
      if s.length < first then []
      else
        match s.find? first with
        | none => []
        | some f =>
          if f.start = f.finish then
            if before == some f.start then go fuel (f.start + 1) none
            else f :: go fuel (f.start + 1) none
          else f :: go fuel f.finish (some f.finish)
  go (2 * s.length + 4) 0 none

end BoardRig.Regex
