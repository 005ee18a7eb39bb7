/-
From the parts of a word to its fields.

A part that was expanded is kept as it is, or it is loose: then its blanks and
other separators take it apart. Arguments in quotes are fields of their own. A
field with signs of patterns stands for the paths that match it, if there are
any.
-/
import BoardRig.FileSystem.Operations
import BoardRig.Shell.Pattern

namespace BoardRig.Shell

/-- A part of a word after its expansion. -/
inductive Piece where
  | kept (quoted : Bool) (octets : Octets)
  | loose (octets : Octets)
  /-- Fields that touch the parts beside them only at the first and last; a
  zero octet ends each but the last. -/
  | apart (octets : Octets)
deriving Repr

namespace Piece

def whole : Piece → List Glyph
  | .kept quoted cs => Pattern.glyphs quoted cs
  | .loose cs => Pattern.glyphs false cs
  | .apart cs => Pattern.glyphs true cs

def octets (pieces : List Piece) : Octets :=
  pieces.flatMap fun piece => Pattern.octets piece.whole

end Piece

/-- Fields that are being made: those that are complete, and the one that
grows; both are in reverse. -/
structure Fields where
  complete : List (List Glyph) := []
  current : Option (List Glyph) := none
  /-- Whether the last field counts even if nothing belongs to it. -/
  isOwn : Bool := false

namespace Fields

def add (gs : List Glyph) (f : Fields) : Fields :=
  { f with current := some (gs.reverse ++ f.current.getD []) }

/-- Complete the field that grows, also if nothing belongs to it. -/
def cut (f : Fields) : Fields :=
  { f with complete := (f.current.getD []).reverse :: f.complete, current := none }

/-- Whether a separator takes the blanks beside it along. -/
def isGap (c : Char) : Bool := c == ' ' || c == '\t' || c == '\n' || c == '\x00'

/-- What is left behind a separator and the blanks beside it. Behind a blank one
other separator belongs to it. -/
def behindSeparator (separators : Octets) (blank : Bool) : Octets → Octets
  | [] => []
  | c :: rest =>
    if !(c == '\x00' || separators.contains c) then c :: rest
    else if isGap c then behindSeparator separators blank rest
    else if blank then behindSeparator separators false rest
    else c :: rest

def addLoose (separators : Octets) : (fuel : Nat) → Octets → Fields → Fields
  | 0, _, f => f
  | _ + 1, [], f => f
  | fuel + 1, c :: rest, f =>
    if !(c == '\x00' || separators.contains c) then
      addLoose separators fuel rest (f.add [⟨c, false⟩])
    else if f.current.isNone && isGap c then addLoose separators fuel rest f
    else addLoose separators fuel (behindSeparator separators (isGap c) rest) f.cut

def addApart : Octets → Fields → Fields
  | [], f => f
  | '\x00' :: rest, f => addApart rest f.cut
  | c :: rest, f => addApart rest (f.add [⟨c, true⟩])

def addPiece (separators : Octets) (f : Fields) : Piece → Fields
  | .kept quoted cs => f.add (Pattern.glyphs quoted cs)
  | .loose cs => addLoose separators (cs.length + 1) cs { f with isOwn := false }
  | .apart cs => addApart cs { f with isOwn := true }

def ofPieces (separators : Octets) (pieces : List Piece) : List (List Glyph) :=
  let f := pieces.foldl (addPiece separators) {}
  (if f.current.isSome || f.isOwn then f.cut else f).complete.reverse

end Fields

/-! ## Paths that match -/

namespace Pattern

/-- The parts of a path pattern between slashes. -/
def pathParts (gs : List Glyph) : List (List Glyph) :=
  gs.foldr (fun g parts =>
    if g.octet = '/' then [] :: parts
    else
      match parts with
      | part :: rest => (g :: part) :: rest
      | [] => [[g]]) [[]]

/-- The paths that begin with one of `bases` and go on with a part. -/
def extended (fs : FileSystem) (directory : String) (part : List Glyph) (bases : List Octets) :
    List Octets :=
  bases.flatMap fun base =>
    if isPattern part then
      let path := if base.isEmpty then directory else Path.join directory (Octets.text base)
      let isHidden (n : Octets) : Bool :=
        n.head? == some '.' && (octets (unescaped part)).head? != some '.'
      let names := (((fs.names path).toOption.map ([".", ".."] ++ ·)).getD []).map Octets.ofString
      (Octets.sorted (names.filter fun n => fits part n && !isHidden n)).map (base ++ ·)
    else [base ++ octets (unescaped part)]

def paths (fs : FileSystem) (directory : String) : List (List Glyph) → List Octets → List Octets
  | [], bases => bases
  | [last], bases => extended fs directory last bases
  | part :: rest, bases =>
    paths fs directory rest ((extended fs directory part bases).map (· ++ ['/']))

def expanded (fs : FileSystem) (directory : String) (field : List Glyph) : List Octets :=
  if isPattern field then
    let found := (paths fs directory (pathParts field) [[]]).filter fun path =>
      (fs.findName (Path.join directory (Octets.text path))).toOption.isSome
    if found.isEmpty then [octets field] else Octets.sorted found
  else [octets field]

end Pattern

end BoardRig.Shell
