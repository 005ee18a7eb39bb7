/-
The strings of a TOML document.

A string stands between quotation marks, where a backslash begins an escape,
or between apostrophes, where nothing does. Three marks on either side let it
run over several lines: a line break right behind the opening marks is left
out, every other one counts as a line feed, and up to two marks may stand
right before the closing ones. Control characters other than the tabulator
stand in no string.
-/
import BoardRig.Text.Radix

namespace BoardRig.Toml

/-- Whether a character may stand in a string or a comment. -/
def isPrintable (c : Char) : Bool :=
  c == '\t' || (0x20 ≤ c.toNat && c.toNat != 0x7F)

/-- The characters between words on a line. -/
def isSpace (c : Char) : Bool :=
  c == ' ' || c == '\t'

def behindBreak? : List Char → Option (List Char)
  | '\n' :: rest => some rest
  | '\r' :: '\n' :: rest => some rest
  | _ => none

/-- The text behind a line break, if one comes next. -/
def dropBreak (cs : List Char) : List Char :=
  (behindBreak? cs).getD cs

/-- The text behind spaces and line breaks. -/
def dropSpaceAndBreaks : List Char → List Char
  | '\r' :: '\n' :: rest => dropSpaceAndBreaks rest
  | c :: rest => if isSpace c ∨ c = '\n' then dropSpaceAndBreaks rest else c :: rest
  | [] => []

/-- The character whose number has exactly `width` digits in base sixteen. -/
def numbered? (width : Nat) (cs : List Char) : Option (Char × List Char) := do
  let digits := cs.take width
  let n ← if digits.length = width && digits.head? != some '+' then
    Radix.read? 16 (Nat.pow 16 width) digits else none
  if n < 0xD800 || (0xE000 ≤ n && n < 0x110000) then some (Char.ofNat n, cs.drop width) else none

/-- The character of an escape, behind its backslash. -/
def escape? : List Char → Option (Char × List Char)
  | 'b' :: rest => some ('\x08', rest)
  | 't' :: rest => some ('\t', rest)
  | 'n' :: rest => some ('\n', rest)
  | 'f' :: rest => some ('\x0c', rest)
  | 'r' :: rest => some ('\r', rest)
  | '"' :: rest => some ('"', rest)
  | '\\' :: rest => some ('\\', rest)
  | 'u' :: rest => numbered? 4 rest
  | 'U' :: rest => numbered? 8 rest
  | _ => none

/-- The string that ends at the next quotation mark, behind the characters in
`text`, which are in reverse. -/
def basic? : (fuel : Nat) → (text : List Char) → List Char → Option (String × List Char)
  | 0, _, _ => none
  | fuel + 1, text, cs =>
    match cs with
    | [] => none
    | '"' :: rest => some (String.ofList text.reverse, rest)
    | '\\' :: rest => do
      let (c, rest) ← escape? rest
      basic? fuel (c :: text) rest
    | c :: rest => if isPrintable c then basic? fuel (c :: text) rest else none

/-- The string that ends at the next apostrophe. -/
def literal? (cs : List Char) : Option (String × List Char) :=
  match cs.dropWhile fun c => isPrintable c && c != '\'' with
  | '\'' :: rest => some (String.ofList (cs.takeWhile fun c => isPrintable c && c != '\''), rest)
  | _ => none

/-- The closing marks of a long string, with the marks of its text before
them. -/
def closing? (mark : Char) : List Char → Option (List Char × List Char)
  | a :: b :: c :: rest =>
    if a = mark ∧ b = mark ∧ c = mark then
      match rest with
      | d :: e :: rest =>
        if d = mark ∧ e = mark then some ([mark, mark], rest)
        else if d = mark then some ([mark], e :: rest)
        else some ([], d :: e :: rest)
      | [d] => if d = mark then some ([mark], []) else some ([], [d])
      | [] => some ([], [])
    else none
  | _ => none

/-- The string over several lines that ends at three of `mark`. Only between
quotation marks does a backslash begin an escape, or a line that is
continued. -/
def long? (mark : Char) : (fuel : Nat) → (text : List Char) → List Char → Option (String × List Char)
  | 0, _, _ => none
  | fuel + 1, text, cs =>
    match closing? mark cs with
    | some (marks, rest) => some (String.ofList (text.reverse ++ marks), rest)
    | none =>
      match behindBreak? cs with
      | some rest => long? mark fuel ('\n' :: text) rest
      | none =>
        match cs with
        | [] => none
        | c :: rest =>
          if c = '\\' ∧ mark = '"' then
            match behindBreak? (rest.dropWhile isSpace) with
            | some rest => long? mark fuel text (dropSpaceAndBreaks rest)
            | none => do
              let (c, rest) ← escape? rest
              long? mark fuel (c :: text) rest
          else if isPrintable c then long? mark fuel (c :: text) rest
          else none

def quoted? (cs : List Char) : Option (String × List Char) :=
  match cs with
  | '"' :: '"' :: '"' :: rest => long? '"' (rest.length + 1) [] (dropBreak rest)
  | '\'' :: '\'' :: '\'' :: rest => long? '\'' (rest.length + 1) [] (dropBreak rest)
  | '"' :: rest => basic? (rest.length + 1) [] rest
  | '\'' :: rest => literal? rest
  | _ => none

def quotedOnLine? : List Char → Option (String × List Char)
  | '"' :: rest => basic? (rest.length + 1) [] rest
  | '\'' :: rest => literal? rest
  | _ => none

end BoardRig.Toml
