/-
Differences between two files.

Octet by octet the first difference is told. Line by line a longest common
subsequence is kept, and what is left are the changes: lines that go and lines
that come between two kept ones.
-/
import BoardRig.Toolbox.Options

namespace BoardRig.Toolbox.Comparison

open Shell State

/-! ## Octet by octet -/

/-- The places where two texts differ, from one on, with what is there. -/
def differences : (place : Nat) → Octets → Octets → List (Nat × Char × Char)
  | n, a :: as, b :: bs =>
    if a = b then differences (n + 1) as bs else (n, a, b) :: differences (n + 1) as bs
  | _, _, _ => []

/-- Compare two files octet by octet. -/
def cmp (_ : Launcher) (args : List Octets) : Run Nat := do
  let g ← givenWith [.plain 'b' "print-bytes", .plain 'l' "verbose", .plain 's' "silent",
    .plain 's' "quiet", .valued 'n' "bytes", .valued 'i' "ignore-initial"] true 2 args
  let silent := g.has "silent" || g.has "quiet"
  let (first, second) ← match g.operands with
    | [] => misused 2 ("missing operand after ".toList ++
        Quote.text (Octets.ofString (← get).name))
    | [a] => pure (a, ['-'])
    | a :: b :: _ => pure (a, b)
  let content (file : Octets) : Run Octets := do
    match ← contentOf file with
    | .ok cs => return cs
    | .error e =>
      if !silent then faultAt file e
      throw (.exit 2)
  let skip := ((g.last? "ignore-initial").bind sized?).getD 0
  let limit := (g.last? "bytes").bind sized?
  let kept (cs : Octets) : Octets := (limit.map fun n => (cs.drop skip).take n).getD (cs.drop skip)
  let a := kept (← content first)
  let b := kept (← content second)
  let found := differences 1 a b
  let ended : Run Nat := do
    let (name, short) := if a.length < b.length then (first, a) else (second, b)
    if a.length = b.length then return if found.isEmpty then 0 else 1
    if !silent then
      let lines := short.countP (· == '\n')
      let place := if short.isEmpty then " which is empty".toList
        else " after byte ".toList ++ Octets.ofNat short.length ++
          if g.has "verbose" then []
          else if short.getLast? == some '\n' then ", line ".toList ++ Octets.ofNat lines
          else ", in line ".toList ++ Octets.ofNat (lines + 1)
      faultWith ("EOF on ".toList ++ name ++ place)
    return 1
  if silent then return if found.isEmpty && a.length = b.length then 0 else 1
  else if g.has "verbose" then
    let width := (Octets.ofNat (max a.length b.length)).length
    let octal (c : Char) : Octets := Octets.padLeft 3 ' ' (Nat.toDigits 8 c.toNat)
    emitLines (found.map fun (n, c, d) =>
      Octets.padLeft width ' ' (Octets.ofNat n) ++ ' ' :: octal c ++ ' ' :: octal d)
    ended
  else
    match found with
    | (n, c, d) :: _ =>
      let line := ((a.take (n - 1)).countP (· == '\n')) + 1
      let octal (c : Char) : Octets := Octets.padLeft 3 ' ' (Nat.toDigits 8 c.toNat)
      putLine (first ++ ' ' :: second ++ " differ: ".toList ++
        (if g.has "print-bytes" then "byte " else "char ").toList ++ Octets.ofNat n ++
        ", line ".toList ++ Octets.ofNat line ++
        if g.has "print-bytes" then
          " is ".toList ++ octal c ++ ' ' :: c :: ' ' :: octal d ++ [' ', d]
        else [])
      return 1
    | [] => ended

/-! ## Line by line -/

/-- What becomes of lines: some are kept, some go, some come. -/
inductive Edit where
  | keep (line : Octets)
  | delete (line : Octets)
  | insert (line : Octets)

/-- The lengths of the longest common subsequences of the first list with all
ends of the second one, given those of the rest of the first list. -/
def lengthsWith (same : Octets → Octets → Bool) (a : Octets) : List Octets → List Nat → List Nat
  | b :: bs, here :: next =>
    let more := lengthsWith same a bs next
    let longest := if same a b then next.head?.getD 0 + 1 else max here (more.head?.getD 0)
    longest :: more
  | _, _ => [0]

/-- The rows of lengths for all ends of the first list. -/
def lengthTable (same : Octets → Octets → Bool) (bs : List Octets) : List Octets →
    List (List Nat)
  | [] => [List.replicate (bs.length + 1) 0]
  | a :: as =>
    let rows := lengthTable same bs as
    lengthsWith same a bs (rows.head?.getD []) :: rows

/-- The changes that lead from one list to another one and keep as many lines
as possible. Lines that go stand in front of those that come. -/
def edits (same : Octets → Octets → Bool) : (fuel : Nat) → List Octets → List Octets →
    List (List Nat) → List Edit
  | 0, _, _, _ => []
  | _ + 1, [], bs, _ => bs.map .insert
  | _ + 1, as, [], _ => as.map .delete
  | fuel + 1, a :: as, b :: bs, rows =>
    let shifted := rows.map List.tail
    if same a b then .keep a :: edits same fuel as bs (shifted.drop 1)
    else
      let withoutA := ((rows[1]?).bind (·.head?)).getD 0
      let withoutB := ((shifted.head?).bind (·.head?)).getD 0
      if withoutB ≤ withoutA then .delete a :: edits same fuel as (b :: bs) (rows.drop 1)
      else .insert b :: edits same fuel (a :: as) bs shifted

/-- A change: where it is in both files, and the lines that go and come. -/
structure Change where
  first : Nat
  second : Nat
  deleted : List Octets
  inserted : List Octets

/-- The changes among edits, from the lines with some numbers on. -/
def changes : (first second : Nat) → (deleted inserted : List Octets) → List Edit → List Change
  | m, n, ds, is, [] => if ds.isEmpty && is.isEmpty then [] else [⟨m, n, ds.reverse, is.reverse⟩]
  | m, n, ds, is, .delete a :: rest => changes m n (a :: ds) is rest
  | m, n, ds, is, .insert b :: rest => changes m n ds (b :: is) rest
  | m, n, ds, is, .keep _ :: rest =>
    let more := changes (m + ds.length + 1) (n + is.length + 1) [] [] rest
    if ds.isEmpty && is.isEmpty then more else ⟨m, n, ds.reverse, is.reverse⟩ :: more

/-- Some lines by their numbers, as a command names them. -/
def range (start count : Nat) : Octets :=
  if count = 0 then Octets.ofNat (start - 1)
  else if count = 1 then Octets.ofNat start
  else Octets.ofNat start ++ ',' :: Octets.ofNat (start + count - 1)

/-- A line with a sign in front. A last line without an ending is followed by a
remark. -/
def signed (sign : String) (line : Octets) : Octets :=
  if line.getLast? == some '\n' then sign.toList ++ line
  else sign.toList ++ line ++ "\n\\ No newline at end of file\n".toList

/-- A change as a command with lines below it. -/
def Change.shown (c : Change) : Octets :=
  let letter := if c.deleted.isEmpty then 'a' else if c.inserted.isEmpty then 'd' else 'c'
  range c.first c.deleted.length ++ letter :: range c.second c.inserted.length ++ ['\n'] ++
    c.deleted.flatMap (signed "< ") ++
    (if letter = 'c' then "---\n".toList else []) ++ c.inserted.flatMap (signed "> ")

def grouped (context : Nat) : List Change → List (List Change)
  | [] => []
  | c :: rest =>
    match grouped context rest with
    | (d :: more) :: groups =>
      if d.first ≤ c.first + c.deleted.length + 2 * context then (c :: d :: more) :: groups
      else [c] :: (d :: more) :: groups
    | groups => [c] :: groups

/-- Some lines by their number and count. -/
def counted (start count : Nat) : Octets :=
  let start := if count = 0 then start - 1 else start
  if count = 1 then Octets.ofNat start else Octets.ofNat start ++ ',' :: Octets.ofNat count

/-- Changes with the lines around them. -/
def hunk (context : Nat) (as : List Octets) (cs : List Change) : Octets :=
  match cs.head?, cs.getLast? with
  | some c, some d =>
    let before := min context (c.first - 1)
    let stop := d.first + d.deleted.length - 1
    let after := min context (as.length - stop)
    let start := c.first - before
    let size := stop + after + 1 - start
    let grown := cs.foldl (fun n c => n + c.inserted.length) 0
    let shrunk := cs.foldl (fun n c => n + c.deleted.length) 0
    let lines (first count : Nat) : Octets :=
      ((as.drop (first - 1)).take count).flatMap (signed " ")
    let rec body : Nat → List Change → Octets
      | place, [] => lines place (stop + after + 1 - place)
      | place, c :: rest =>
        lines place (c.first - place) ++ c.deleted.flatMap (signed "-") ++
          c.inserted.flatMap (signed "+") ++ body (c.first + c.deleted.length) rest
    "@@ -".toList ++ counted start size ++ " +".toList ++
      counted (c.second - before) (size + grown - shrunk) ++ " @@\n".toList ++ body start cs
  | _, _ => []

/-- What a comparison is asked for. -/
structure Wish where
  brief : Bool
  told : Bool
  context : Option Nat
  same : Octets → Octets → Bool
  blankLines : Bool
  recursive : Bool
  newFiles : Bool
  labels : List Octets
  options : Octets

/-- Compare two files under their names; yields the status. -/
def compareFiles (w : Wish) (first second a b : Octets) : Run Nat := do
  let told : Run Nat := do
    if w.told then
      putLine ("Files ".toList ++ first ++ " and ".toList ++ second ++ " are identical".toList)
    return 0
  if a = b then told
  else if a.contains '\x00' || b.contains '\x00' then
    putLine ((if w.brief then "Files " else "Binary files ").toList ++ first ++ " and ".toList ++
      second ++ " differ".toList)
    return if w.brief then 1 else 2
  else
    let kept (lines : List Octets) : List Octets :=
      if w.blankLines then lines.filter fun line => !(bare line).isEmpty else lines
    let as := kept (Octets.lines a)
    let bs := kept (Octets.lines b)
    let cs := changes 1 1 [] []
      (edits w.same (as.length + bs.length + 1) as bs (lengthTable w.same bs as))
    if cs.isEmpty then told
    else if w.brief then
      putLine ("Files ".toList ++ first ++ " and ".toList ++ second ++ " differ".toList)
      return 1
    else
      match w.context with
      | none => emit (cs.flatMap Change.shown)
      | some context =>
        let stamp := "\t1970-01-01 00:00:00.000000000 +0000".toList
        let label (n : Nat) (name : Octets) : Octets := (w.labels[n]?).getD (name ++ stamp)
        putLine ("--- ".toList ++ label 0 first)
        putLine ("+++ ".toList ++ label 1 second)
        emit ((grouped context cs).flatMap (hunk context as))
      return 1

def inside (directory name : Octets) : Octets :=
  if directory.getLast? == some '/' then directory ++ name else directory ++ '/' :: name

def comparePaths (w : Wish) : (fuel : Nat) → (top : Bool) → (first second : Octets) → Run Nat
  | 0, _, _, _ => return 2
  | fuel + 1, top, first, second => do
    let p ← get
    let isDirectory (path : Octets) : Bool := path != ['-'] && p.files.isDirectory (p.pathOf path)
    match isDirectory first, isDirectory second with
    | true, true =>
      if !top && !w.recursive then
        putLine ("Common subdirectories: ".toList ++ first ++ " and ".toList ++ second)
        return 0
      let names (path : Octets) : List Octets :=
        ((p.files.names (p.pathOf path)).toOption.getD []).map Octets.ofString
      let all := (Octets.sorted (names first ++ names second)).eraseDups
      all.foldlM (fun status name => do
        let only (directory : Octets) : Run Nat := do
          putLine ("Only in ".toList ++ directory ++ ": ".toList ++ name)
          return max status 1
        if !(names first).contains name then only second
        else if !(names second).contains name then only first
        else return max status (← comparePaths w fuel false (inside first name)
          (inside second name))) 0
    | true, false =>
      if !top then
        putLine ("File ".toList ++ first ++ " is a directory while file ".toList ++ second ++
          " is a regular file".toList)
        return 1
      comparePaths w fuel false (inside first (second.reverse.takeWhile (· != '/')).reverse) second
    | false, true =>
      if !top then
        putLine ("File ".toList ++ first ++ " is a regular file while file ".toList ++ second ++
          " is a directory".toList)
        return 1
      comparePaths w fuel false first (inside second (first.reverse.takeWhile (· != '/')).reverse)
    | false, false =>
      let content (file : Octets) : Run (Option Octets) := do
        match ← contentOf file with
        | .ok cs => return some cs
        | .error e =>
          if w.newFiles && e = .noSuchFile then return some []
          faultAt file e
          return none
      let a ← content first
      let b ← content second
      match a, b with
      | some a, some b =>
        let before ← get
        let status ← compareFiles w first second a b
        if !top && status = 1 && !w.brief && w.recursive then
          -- The command for the two files stands above their differences.
          set before
          putLine ("diff".toList ++ w.options ++ ' ' :: first ++ ' ' :: second)
          compareFiles w first second a b
        else return status
      | _, _ => return 2

/-- Compare two files line by line. -/
def diff (_ : Launcher) (args : List Octets) : Run Nat := do
  let g ← givenWith [.plain 'q' "brief", .plain 's' "report-identical-files", .plain 'u' "u",
    .valued 'U' "unified", .plain 'i' "ignore-case", .plain 'w' "ignore-all-space",
    .plain 'b' "ignore-space-change", .plain 'B' "ignore-blank-lines", .plain 'r' "recursive",
    .plain 'N' "new-file", .plain 'a' "text", .long "label" .value, .plain 'd' "minimal",
    .long "normal" .nothing] true 2 args
  let keyOf (line : Octets) : Octets :=
    let cs := if g.has "ignore-case" then line.map Char.toLower else line
    if g.has "ignore-all-space" then cs.filter fun c => !isSpace c
    else if g.has "ignore-space-change" then
      List.intercalate [' '] (Text.wordsFrom isSpace [] cs) ++
        (if (cs.head?.any isSpace) then [' '] else [])
    else cs
  let w : Wish := {
    brief := g.has "brief", told := g.has "report-identical-files"
    context := if g.has "unified" then ((g.last? "unified").bind Octets.nat?).getD 3
      else if g.has "u" then some 3 else none
    same := fun a b => keyOf a == keyOf b
    blankLines := g.has "ignore-blank-lines", recursive := g.has "recursive"
    newFiles := g.has "new-file", labels := g.all "label"
    options := (args.filter fun arg => arg.head? == some '-' && 1 < arg.length).flatMap (' ' :: ·) }
  match g.operands with
  | [] => misused 2 ("missing operand after ".toList ++ Quote.text (Octets.ofString (← get).name))
  | [a] => misused 2 ("missing operand after ".toList ++ Quote.text a)
  | [a, b] => comparePaths w 64 true a b
  | _ :: _ :: extra :: _ => extraOperand 2 extra

end BoardRig.Toolbox.Comparison
