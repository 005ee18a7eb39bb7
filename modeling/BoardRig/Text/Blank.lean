/-
Blank characters, and the cuts of a text that are made at them.

A character is blank when it has the Unicode property White_Space. The cuts
are trimming at either end, the blank-separated words of a text, and its
lines. A line ends at a line feed, a carriage return right before that line
feed belongs to the ending, and a last line without an ending counts only
when it is not empty.
-/
namespace BoardRig.Text

/-- The Unicode property White_Space. -/
def isBlank (c : Char) : Bool :=
  let n := c.toNat
  (9 ≤ n && n ≤ 13) || n == 0x20 || n == 0x85 || n == 0xA0 || n == 0x1680 ||
    (0x2000 ≤ n && n ≤ 0x200A) || n == 0x2028 || n == 0x2029 || n == 0x202F ||
    n == 0x205F || n == 0x3000

/-! ## Trimming -/

/-- The text from its first character that is not blank. -/
def trimStart (cs : List Char) : List Char :=
  cs.dropWhile isBlank

/-- The text without the characters of class `p` at its end. -/
def dropEndWhile (p : Char → Bool) (cs : List Char) : List Char :=
  (cs.reverse.dropWhile p).reverse

/-- The text up to its last character that is not blank. -/
def trimEnd (cs : List Char) : List Char :=
  dropEndWhile isBlank cs

def trim (cs : List Char) : List Char :=
  trimEnd (trimStart cs)

/-! ## Words

Runs are collected in reverse, and an empty one is no word. -/

/-- The maximal runs of characters outside class `p`, where `word` holds the
run being read in reverse. -/
def wordsFrom (p : Char → Bool) (word : List Char) : List Char → List (List Char)
  | [] => if word.isEmpty then [] else [word.reverse]
  | c :: cs =>
    if p c then
      if word.isEmpty then wordsFrom p [] cs else word.reverse :: wordsFrom p [] cs
    else wordsFrom p (c :: word) cs

def words (cs : List Char) : List (List Char) :=
  wordsFrom isBlank [] cs

/-! ## Lines

A piece between two line feeds is a line, even an empty one, and what stands behind
the last line feed is one only if it is not empty. -/

/-- The pieces between separators; there is one more piece than separators.
The piece being read stands in `piece` in reverse. -/
def splitFrom (sep : Char) (piece : List Char) : List Char → List (List Char)
  | [] => [piece.reverse]
  | c :: cs => if c = sep then piece.reverse :: splitFrom sep [] cs else splitFrom sep (c :: piece) cs

/-- The pieces of a text between the occurrences of `sep`. -/
def split (sep : Char) (cs : List Char) : List (List Char) :=
  splitFrom sep [] cs

/-- A piece without one carriage return at its end. -/
def dropReturn (cs : List Char) : List Char :=
  if cs.getLast? = some '\r' then cs.dropLast else cs

/-- Lines from pieces: every piece but the last ended in a line feed. -/
def linesOfPieces : List (List Char) → List (List Char)
  | [] => []
  | [last] => if last.isEmpty then [] else [last]
  | piece :: rest => dropReturn piece :: linesOfPieces rest

/-- The lines of a text, without their endings. -/
def lines (cs : List Char) : List (List Char) :=
  linesOfPieces (split '\n' cs)

/-! ## Cutting at the first occurrence -/

/-- What stands before and after the first `sep`. -/
def cutAt? (sep : Char) (cs : List Char) : Option (List Char × List Char) :=
  match cs.dropWhile (· != sep) with
  | [] => none
  | _ :: after => some (cs.takeWhile (· != sep), after)

/-- The rest of a text that begins with `start`. -/
def stripStart? : (start cs : List Char) → Option (List Char)
  | [], cs => some cs
  | _ :: _, [] => none
  | s :: start, c :: cs => if s = c then stripStart? start cs else none

/-- Whether `part` stands somewhere in the text. -/
def occursIn (part : List Char) : List Char → Bool
  | [] => part.isEmpty
  | c :: cs => part.isPrefixOf (c :: cs) || occursIn part cs

/-- The rests of the text behind each occurrence of `part`, from left to
right. -/
def afterEach (part : List Char) : List Char → List (List Char)
  | [] => []
  | c :: cs =>
    match stripStart? part (c :: cs) with
    | some rest => rest :: afterEach part cs
    | none => afterEach part cs

/-! ## Letters -/

/-- The lower-case form of an ASCII letter; every other character stays. -/
def lowerAscii (c : Char) : Char :=
  if 'A' ≤ c ∧ c ≤ 'Z' then Char.ofNat (c.toNat + 32) else c

/-- Whether two texts agree up to the case of ASCII letters. -/
def sameIgnoringCase (a b : List Char) : Bool :=
  a.map lowerAscii == b.map lowerAscii

end BoardRig.Text
