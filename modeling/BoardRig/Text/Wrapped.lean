/-
Text laid out in lines of bounded width.

A line is cut between words only, so that a word longer than the width has a
line of its own. The spaces at which a line is cut are left out.
-/
import BoardRig.Text.Blank

namespace BoardRig.Text

/-! ## Words with their spaces -/

/-- The words of a text, each with the spaces behind it, where `word` holds
the word being read in reverse and `ended` tells that its spaces have begun. -/
def spacedFrom (word : List Char) (ended : Bool) : List Char → List (List Char)
  | [] => if word.isEmpty then [] else [word.reverse]
  | c :: cs =>
    if ended && c != ' ' then word.reverse :: spacedFrom [c] false cs
    else spacedFrom (c :: word) (c == ' ') cs

/-- The words of a text, each with the spaces behind it. -/
def spacedWords (cs : List Char) : List (List Char) :=
  spacedFrom [] false cs

/-! ## Lines -/

/-- The lines of a text whose words follow those on `line`. -/
def layFrom (width : Nat) (line : List Char) : List (List Char) → List (List Char)
  | [] => [line]
  | word :: words =>
    if line.length + (trimEnd word).length ≤ width then layFrom width (line ++ word) words
    else trimEnd line :: layFrom width word words

/-- A line of text as lines that have a width where their words allow it. -/
def lay (width : Nat) (line : List Char) : List (List Char) :=
  match spacedWords line with
  | [] => [[]]
  | word :: words => layFrom width word words

/-- A text in lines that have a width where their words allow it. -/
def wrap (width : Nat) (text : String) : List String :=
  let lines := (splitFrom '\n' [] text.toList).flatMap (lay width)
  (splitFrom '\n' [] (trimEnd (List.intercalate ['\n'] lines))).map String.ofList

/-- A text in which every line but the first begins with spaces. -/
def hanging (indent : Nat) (lines : List String) : String :=
  String.intercalate ("\n" ++ String.ofList (List.replicate indent ' ')) lines

end BoardRig.Text
