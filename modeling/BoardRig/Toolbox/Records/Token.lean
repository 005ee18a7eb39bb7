/-
The words of programs that act on records.

A slash begins a regular expression where a value is wanted, and divides
behind a value. The end of a line counts, unless a backslash stands in front
of it.
-/
import BoardRig.Decimal.Ratio
import BoardRig.Shell.Escape
import BoardRig.Toolbox.Records.Syntax

namespace BoardRig.Toolbox.Records

open Shell

/-- A word of a program. -/
inductive Token where
  | number (x : Decimal.Number) (shown : Octets)
  | text (cs : Octets)
  | pattern (cs : Octets)
  | name (name : String)
  /-- A name with an opening parenthesis right behind it, which is not part of
  it. -/
  | function (name : String)
  | builtin (f : Function) (name : String)
  | keyword (word : String)
  | sign (sign : String)
  | newline
deriving DecidableEq

namespace Token

/-- The words that have a meaning of their own. -/
def keywords : List String := [
  "BEGIN", "END", "function", "func", "if", "else", "while", "for", "do", "break", "continue",
  "next", "nextfile", "exit", "return", "delete", "in", "getline", "print", "printf"]

/-- The names of the functions that every program has. -/
def functions : List (String × Function) := [
  ("length", .length), ("substr", .part), ("index", .position), ("split", .split),
  ("sub", .replaceFirst), ("gsub", .replaceAll), ("match", .find), ("sprintf", .format),
  ("tolower", .toLower), ("toupper", .toUpper), ("int", .whole), ("sqrt", .root),
  ("sin", .sine), ("cos", .cosine), ("exp", .exponential), ("log", .logarithm),
  ("atan2", .angle), ("rand", .random), ("srand", .seed), ("system", .run), ("close", .close),
  ("fflush", .flush), ("systime", .time), ("strftime", .date)]

/-- The signs, the longer ones first. -/
def signs : List String := [
  "&&", "||", "++", "--", "+=", "-=", "*=", "/=", "%=", "^=", "==", "!=", "<=", ">=", ">>", "!~",
  "\x7b", "\x7d", "(", ")", "[", "]", ";", ",", "+", "-", "*", "/", "%", "^", "!", ">", "<", "|",
  "?", ":", "~", "$", "="]

def shown : Token → Octets
  | number _ cs => cs
  | text cs => cs
  | pattern cs => '/' :: cs ++ ['/']
  | name n | function n | builtin _ n | keyword n => n.toList
  | sign s => s.toList
  | newline => "end of line".toList

/-- Whether a word ends a value, so that a slash behind it divides. -/
def endsValue : Token → Bool
  | number _ _ | text _ | pattern _ | name _ | builtin _ _ => true
  | sign s => s == ")" || s == "]" || s == "$" || s == "++" || s == "--"
  | keyword w => w == "getline"
  | _ => false

end Token

/-- What is wrong with the words of a program. -/
inductive Misspelling where
  | runawayText (rest : Octets)
  | runawayPattern (rest : Octets)
  | unexpected (c : Char)

/-- A text between quotes: what it denotes, and the text behind it. -/
def quoted : (fuel : Nat) → (before : Octets) → Octets → Option (Octets × Octets)
  | 0, _, _ => none
  | _ + 1, _, [] => none
  | _ + 1, _, '\n' :: _ => none
  | _ + 1, before, '"' :: rest => some (before.reverse, rest)
  | fuel + 1, before, '\\' :: '\n' :: rest => quoted fuel before rest
  | fuel + 1, before, '\\' :: '"' :: rest => quoted fuel ('"' :: before) rest
  | fuel + 1, before, '\\' :: c :: rest =>
    if c = 'e' then quoted fuel ('e' :: '\\' :: before) rest
    else if c = 'x' && rest.head?.any fun c => (Radix.digit? 16 c).isSome then
      let (d, rest) := Escape.numbered 16 2 rest
      quoted fuel (d :: before) rest
    else
      let (d, rest) := Escape.escaped (c :: rest)
      quoted fuel (d :: before) rest
  | fuel + 1, before, c :: rest => quoted fuel (c :: before) rest

/-- The text of a regular expression up to the slash that ends it, which is none
in brackets. -/
def patternText : (inSet : Bool) → (before : Octets) → Octets → Option (Octets × Octets)
  | _, _, [] => none
  | _, _, '\n' :: _ => none
  | inSet, before, '\\' :: '/' :: rest => patternText inSet ('/' :: before) rest
  | inSet, before, '\\' :: c :: rest => patternText inSet (c :: '\\' :: before) rest
  | inSet, before, '/' :: rest =>
    if inSet then patternText inSet ('/' :: before) rest else some (before.reverse, rest)
  | inSet, before, '[' :: ']' :: rest =>
    if inSet then patternText false (']' :: '[' :: before) rest
    else patternText true (']' :: '[' :: before) rest
  | inSet, before, '[' :: '^' :: ']' :: rest =>
    if inSet then patternText false (']' :: '^' :: '[' :: before) rest
    else patternText true (']' :: '^' :: '[' :: before) rest
  | inSet, before, '[' :: ':' :: rest =>
    if inSet then patternText true (':' :: '[' :: before) rest
    else patternText true (':' :: '[' :: before) rest
  | inSet, before, ':' :: ']' :: rest =>
    if inSet then patternText true (']' :: ':' :: before) rest
    else patternText false (']' :: ':' :: before) rest
  | _, before, '[' :: rest => patternText true ('[' :: before) rest
  | _, before, ']' :: rest => patternText false (']' :: before) rest
  | inSet, before, c :: rest => patternText inSet (c :: before) rest

/-- The number at the front of a text. -/
def numeral (cs : Octets) : Octets :=
  let whole := cs.takeWhile Char.isDigit
  let rest := cs.drop whole.length
  let (digits, rest) := match rest with
    | '.' :: more =>
      let fraction := more.takeWhile Char.isDigit
      (whole ++ '.' :: fraction, more.drop fraction.length)
    | rest => (whole, rest)
  match rest with
  | e :: more =>
    if e = 'e' || e = 'E' then
      let (sign, more) := match more with
        | '+' :: more => (['+'], more)
        | '-' :: more => (['-'], more)
        | more => ([], more)
      let power := more.takeWhile Char.isDigit
      if power.isEmpty then digits else digits ++ e :: sign ++ power
    else digits
  | [] => digits

/-- Whether a character may begin a name. -/
def startsName (c : Char) : Bool := c.isAlpha || c == '_'

/-- The words of a program, each with its line. -/
def tokens : (fuel : Nat) → (line : Nat) → (before : Option Token) → Octets →
    Except (Misspelling × Nat) (List (Token × Nat))
  | 0, _, _, _ => .ok []
  | _ + 1, _, _, [] => .ok []
  | fuel + 1, line, before, c :: rest =>
    let put (t : Token) (rest : Octets) : Except (Misspelling × Nat) (List (Token × Nat)) := do
      return (t, line) :: (← tokens fuel line (some t) rest)
    if c = '\n' then do
      return (Token.newline, line) :: (← tokens fuel (line + 1) (some .newline) rest)
    else if c = ' ' || ('\t' ≤ c && c ≤ '\r') then tokens fuel line before rest
    else if c = '#' then tokens fuel line before (rest.dropWhile (· != '\n'))
    else if c = '\\' && (rest.dropWhile fun c => c == ' ' || c == '\r').head? == some '\n' then
      tokens fuel (line + 1) before ((rest.dropWhile (· != '\n')).drop 1)
    else if c = '"' then
      match quoted (rest.length + 1) [] rest with
      | some (cs, rest) => put (.text cs) rest
      | none => .error (.runawayText ((c :: rest).takeWhile (· != '\n')), line)
    else if c = '/' && !(before.any Token.endsValue) then
      match patternText false [] rest with
      | some (cs, rest) => put (.pattern cs) rest
      | none => .error (.runawayPattern ((c :: rest).takeWhile (· != '\n')), line)
    else if c.isDigit || (c = '.' && rest.head?.any Char.isDigit) then
      let shown := numeral (c :: rest)
      let x := ((Decimal.Number.read? .double shown).map (·.1)).getD (.ofNat 0)
      put (.number x shown) ((c :: rest).drop shown.length)
    else if startsName c then
      let word := (c :: rest).takeWhile fun c => startsName c || c.isDigit
      let rest := (c :: rest).drop word.length
      let name := String.ofList word
      if Token.keywords.contains name then
        put (.keyword (if name == "func" then "function" else name)) rest
      else
        match Token.functions.lookup name with
        | some f => put (.builtin f name) rest
        | none => put (if rest.head? == some '(' then .function name else .name name) rest
    else
      match Token.signs.find? fun s => s.toList.isPrefixOf (c :: rest) with
      | some s => put (.sign s) ((c :: rest).drop s.length)
      | none => .error (.unexpected c, line)

end BoardRig.Toolbox.Records
