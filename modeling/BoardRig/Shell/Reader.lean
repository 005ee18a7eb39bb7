/-
Reading a shell script.

The parts of a word, the tokens and the commands read one another: a word may
hold commands whose output it takes. Every part reads from the front of the
text. A text that is given with a command is read from the lines behind it,
when the line of the command has ended.
-/
import BoardRig.Shell.Token

namespace BoardRig.Shell.Reader

open Scan

/-! ## Pieces of words -/

/-- Parts with some plain text in reverse put in front. -/
def withPlain (quoted : Bool) (plain : Octets) (parts : Word) : Word :=
  if plain.isEmpty then parts else .text quoted plain.reverse :: parts

/-- Where a text in double quotes ends. -/
inductive QuoteEnd where
  /-- At the closing quote. -/
  | quote
  /-- At the brace that closes a parameter; quotes inside only change what a
  brace means. -/
  | brace (inQuotes inDocument : Bool)
  /-- At the end of the text. -/
  | document
deriving DecidableEq, Repr

/-- Whether a character ends a bare word. -/
def isMeta (c : Char) : Bool :=
  [' ', '\t', '\n', ';', '&', '|', '<', '>', '(', ')'].contains c

def singleQuoted (text : Octets) : (fuel : Nat) → Scan Octets
  | 0 => tooDeep
  | fuel + 1 => do
    match ← next with
    | none => fail "Unterminated quoted string"
    | some '\'' => return text.reverse
    | some '\n' => do newLine; singleQuoted ('\n' :: text) fuel
    | some c => singleQuoted (c :: text) fuel

/-- The text up to a backquote; a backslash takes away the meaning of some
characters. -/
def backquoted (quoted : Bool) (text : Octets) : (fuel : Nat) → Scan Octets
  | 0 => tooDeep
  | fuel + 1 => do
    match ← take with
    | none => fail "EOF in backquote substitution"
    | some '\x60' => return text.reverse
    | some '\\' =>
      match ← next with
      | none => backquoted quoted ('\\' :: text) fuel
      | some c =>
        if c = '\n' then newLine
        if ['\x60', '\\', '$'].contains c || (quoted && c = '"') then
          backquoted quoted (c :: text) fuel
        else backquoted quoted (c :: '\\' :: text) fuel
    | some '\n' => do newLine; backquoted quoted ('\n' :: text) fuel
    | some c => backquoted quoted (c :: text) fuel

/-- The characters of a class at the front. -/
def takeWhile (p : Char → Bool) (text : Octets) : (fuel : Nat) → Scan Octets
  | 0 => tooDeep
  | fuel + 1 => do
    match ← take with
    | some c =>
      if p c then takeWhile p (c :: text) fuel
      else back (some c); return text.reverse
    | none => return text.reverse

/-- The use of a parameter that an operator asks for, and whether a word with
patterns follows. Where nothing of that kind stands, nothing is taken. -/
def operator (c : Option Char) : Scan (ParameterUse × Bool) := do
  let plain (orEmpty : Bool) : Option Char → Option ParameterUse
    | some '-' => some (.orElse orEmpty)
    | some '=' => some (.orAssign orEmpty)
    | some '?' => some (.orFail orEmpty)
    | some '+' => some (.ifSet orEmpty)
    | _ => none
  match c with
  | some ':' =>
    match plain true (← take) with
    | some use => return (use, false)
    | none => return (.unknown, false)
  | some '#' => return (.withoutStart (← accept '#'), true)
  | some '%' => return (.withoutEnd (← accept '%'), true)
  | c => return ((plain false c).getD .unknown, false)

/-- How a redirection works, its usual descriptor, and whether tabs in front
of lines are left out; its first sign has been read. -/
def redirection (sign : Char) : Scan (RedirectKind × Nat × Bool) := do
  if sign = '>' then
    if ← accept '>' then return (.append, 1, false)
    else if ← accept '|' then return (.overwrite, 1, false)
    else if ← accept '&' then return (.duplicate true, 1, false)
    else return (.write, 1, false)
  else if ← accept '<' then
    let withoutTabs ← accept '-'
    let s ← get
    set { s with count := s.count + 1 }
    return (.here s.count, 0, withoutTabs)
  else if ← accept '&' then return (.duplicate false, 0, false)
  else if ← accept '>' then return (.readWrite, 0, false)
  else return (.read, 0, false)

/-- The lines up to the one that ends a text which is given with a script. -/
def documentLines (p : Pending) (text : Octets) : (fuel : Nat) → Octets → Nat →
    Octets × Nat × Octets
  | 0, rest, lines => (text, lines, rest)
  | fuel + 1, rest, lines =>
    let line := rest.takeWhile (· != '\n')
    let behind := rest.drop line.length
    let line := if p.withoutTabs then line.dropWhile (· == '\t') else line
    match behind with
    | [] =>
      if line = p.endMark then (text, lines, []) else (line.reverse ++ text, lines, [])
    | _ :: behind =>
      if line = p.endMark then (text, lines + 1, behind)
      else documentLines p ('\n' :: line.reverse ++ text) fuel behind (lines + 1)

/-- The lines up to the end of a text in which backslashes join lines. -/
def joinedLines (p : Pending) (text : Octets) : (fuel : Nat) → Octets → Nat →
    Octets × Nat × Octets
  | 0, rest, lines => (text, lines, rest)
  | fuel + 1, rest, lines =>
    let line := rest.takeWhile (· != '\n')
    let behind := rest.drop line.length
    let shown := if p.withoutTabs then line.dropWhile (· == '\t') else line
    match behind with
    | [] =>
      if shown = p.endMark then (text, lines, []) else (shown.reverse ++ text, lines, [])
    | _ :: behind =>
      if shown = p.endMark then (text, lines + 1, behind)
      else
        let isJoined := (line.reverse.takeWhile (· == '\\')).length % 2 = 1
        let text := '\n' :: shown.reverse ++ text
        if isJoined then
          let more := behind.takeWhile (· != '\n')
          joinedLines p (if behind.drop more.length = [] then more.reverse ++ text
            else '\n' :: more.reverse ++ text) fuel ((behind.drop more.length).drop 1) (lines + 2)
        else joinedLines p text fuel behind (lines + 1)

/-- Tokens that are read after one character. -/
def signed (fuel : Nat) (c : Char) : Scan (Option Token) := do
  match c with
  | '&' => if ← accept '&' then return some .both else return some .ampersand
  | '|' => if ← accept '|' then return some .either else return some .bar
  | ';' => if ← accept ';' then return some .endBranch else return some .semicolon
  | '(' => return some .openParenthesis
  | ')' => return some .closeParenthesis
  | '\n' => do newLine; return some .newline
  | '#' => do skipLine fuel; return none
  | _ => return none

/-- The digit that is a descriptor in front of a redirection. -/
def descriptor? : Word → Option (Option Nat)
  | [] => some none
  | [.text false [c]] => if c.isDigit then some (some (c.toNat - 48)) else none
  | _ => none

/-- Two commands, one after the other. -/
def followed (first : Option Command) (second : Command) : Command :=
  match first with
  | some first => .joined .always first second
  | none => second

/-- The names of commands that no function may have. -/
def reservedNames : List String :=
  [".", ":", "break", "continue", "eval", "exec", "exit", "export", "local", "readonly", "return",
    "set", "shift", "times", "trap", "unset"]

/-- A redirection whose first sign was read. -/
def redirectionToken (given : Option Nat) (sign : Char) : Scan Token := do
  let (kind, usual, withoutTabs) ← redirection sign
  return .redirection (given.getD usual) kind withoutTabs

mutual

/-- The parts of a bare word; in braces only a brace ends it. -/
def bareParts (inBraces : Bool) : (fuel : Nat) → (plain : Octets) → Scan Word
  | 0, _ => tooDeep
  | fuel + 1, plain => do
    let continued (part : Word) : Scan Word := do
      return withPlain false plain (part ++ (← bareParts inBraces fuel []))
    match ← take with
    | none => do
      if inBraces then fail "Missing '\x7d'"
      return withPlain false plain []
    | some '\'' => do
      let text ← singleQuoted [] fuel
      continued [.text true text]
    | some '"' => do
      let parts ← quotedParts .quote fuel []
      continued (if parts.isEmpty then [.text true []] else parts)
    | some '\\' =>
      match ← next with
      | none => continued [.text true ['\\']]
      | some c => continued [.text true [c]]
    | some '\x60' => do
      if (← get).checks.endMark then bareParts inBraces fuel ('\x60' :: plain)
      else do
        let part ← oldOutput false fuel
        continued [part]
    | some '$' => do
      let part ← dollar false none fuel
      match part with
      | .text false cs => bareParts inBraces fuel (cs.reverse ++ plain)
      | part => continued [part]
    | some '\x7d' => do
      if inBraces then return withPlain false plain []
      else bareParts inBraces fuel ('\x7d' :: plain)
    | some c => do
      if inBraces then
        if c = '\n' then newLine
        bareParts inBraces fuel (c :: plain)
      else if isMeta c then do
        back (some c)
        return withPlain false plain []
      else bareParts inBraces fuel (c :: plain)
termination_by structural fuel => fuel

def quotedParts (ending : QuoteEnd) : (fuel : Nat) → (plain : Octets) → Scan Word
  | 0, _ => tooDeep
  | fuel + 1, plain => do
    let continued (part : Word) : Scan Word := do
      return withPlain true plain (part ++ (← quotedParts ending fuel []))
    match ← take with
    | none =>
      match ending with
      | .quote | .brace _ false => fail "Unterminated quoted string"
      | .brace _ true => fail "Missing '\x7d'"
      | .document => return withPlain true plain []
    | some '"' =>
      match ending with
      | .quote => return withPlain true plain []
      | .brace inQuotes inDocument => quotedParts (.brace (!inQuotes) inDocument) fuel plain
      | .document => quotedParts ending fuel ('"' :: plain)
    | some '\x7d' =>
      match ending with
      | .brace false _ => return withPlain true plain []
      | ending => quotedParts ending fuel ('\x7d' :: plain)
    | some '\\' =>
      match ← next with
      | none => quotedParts ending fuel ('\\' :: plain)
      | some c =>
        if c = '\n' then newLine
        let isTaken := ['$', '\x60', '\\'].contains c || (c = '"' && ending != .document) ||
          (c = '\x7d' && ending matches .brace _ _)
        quotedParts ending fuel (if isTaken then c :: plain else c :: '\\' :: plain)
    | some '\x60' => do
      let part ← oldOutput true fuel
      continued [part]
    | some '$' => do
      let part ← dollar true (some ending) fuel
      match part with
      | .text _ cs => quotedParts ending fuel (cs.reverse ++ plain)
      | part => continued [part]
    | some '\n' => do newLine; quotedParts ending fuel ('\n' :: plain)
    | some c => quotedParts ending fuel (c :: plain)
termination_by structural fuel => fuel

/-- The parts of an expression up to the two parentheses that close it. -/
def expressionParts : (fuel depth : Nat) → (plain : Octets) → Scan Word
  | 0, _, _ => tooDeep
  | fuel + 1, depth, plain => do
    let continued (part : Word) : Scan Word := do
      return withPlain true plain (part ++ (← expressionParts fuel depth []))
    match ← take with
    | none => fail "Missing '))'"
    | some '(' => expressionParts fuel (depth + 1) ('(' :: plain)
    | some ')' =>
      match depth with
      | depth + 1 => expressionParts fuel depth (')' :: plain)
      | 0 => do
        if ← accept ')' then return withPlain true plain []
        else expressionParts fuel 0 (')' :: plain)
    | some '\\' =>
      match ← next with
      | none => expressionParts fuel depth ('\\' :: plain)
      | some c =>
        if c = '\n' then newLine
        expressionParts fuel depth
          (if ['$', '\x60', '\\', '"'].contains c then c :: plain else c :: '\\' :: plain)
    | some '\x60' => do
      let part ← oldOutput true fuel
      continued [part]
    | some '$' => do
      let part ← dollar true (some .quote) fuel
      match part with
      | .text _ cs => expressionParts fuel depth (cs.reverse ++ plain)
      | part => continued [part]
    | some '\n' => do newLine; expressionParts fuel depth ('\n' :: plain)
    | some c => expressionParts fuel depth (c :: plain)
termination_by structural fuel => fuel

/-- The commands between backquotes, whose first was read. -/
def oldOutput (quoted : Bool) : (fuel : Nat) → Scan Part
  | 0 => tooDeep
  | fuel + 1 => do
    let start := (← get).line
    let text ← backquoted quoted [] fuel
    let s ← get
    set { s with
      fronts := [], rest := text, line := start, checks := {}, again := false, pending := [] }
    let command ← list fuel false true none
    documents fuel
    let t ← get
    set { s with documents := t.documents, count := t.count }
    return .output quoted (command.getD .nothing)
termination_by structural fuel => fuel

/-- The commands between parentheses, whose first was read. -/
def newOutput (quoted : Bool) : (fuel : Nat) → Scan Part
  | 0 => tooDeep
  | fuel + 1 => do
    let s ← get
    set { s with checks := {}, again := false, pending := [] }
    let command ← list fuel false true none
    match ← token fuel with
    | .closeParenthesis => pure ()
    | _ => expected .closeParenthesis
    documents fuel
    modify fun t => { t with
      checks := s.checks, last := s.last, again := false, pending := s.pending }
    return .output quoted (command.getD .nothing)
termination_by structural fuel => fuel

/-- What stands behind a dollar sign. A dollar sign with nothing to expand
stands for itself. -/
def dollar (quoted : Bool) (within : Option QuoteEnd) : (fuel : Nat) → Scan Part
  | 0 => tooDeep
  | fuel + 1 => do
    let c ← take
    let itself : Scan Part := do
      back c
      return .text quoted ['$']
    if (← get).checks.endMark then itself
    else
      match c with
      | none => itself
      | some '(' => do
        if ← accept '(' then return .value quoted (← expressionParts fuel 0 [])
        else newOutput quoted fuel
      | some '\x7b' => braced quoted within fuel
      | some c =>
        if beginsName c then do
          let name ← takeWhile isInName [c] fuel
          return .parameter quoted (String.ofList name) .value []
        else if c.isDigit || isSpecialName c then
          return .parameter quoted (String.singleton c) .value []
        else itself
termination_by structural fuel => fuel

/-- What stands in braces behind a dollar sign. -/
def braced (quoted : Bool) (within : Option QuoteEnd) : (fuel : Nat) → Scan Part
  | 0 => tooDeep
  | fuel + 1 => do
    let named (c : Char) : Scan (Option Octets) := do
      if beginsName c then return some (← takeWhile isInName [c] fuel)
      else if c.isDigit then return some (← takeWhile Char.isDigit [c] fuel)
      else if isSpecialName c then return some [c]
      else return none
    let ended (name : Octets) (use : ParameterUse) (isPattern : Bool) : Scan Part := do
      let inDocument := within matches some .document | some (.brace _ true)
      let word ← if quoted && !isPattern then quotedParts (.brace false inDocument) fuel []
        else bareParts true fuel []
      return .parameter quoted (String.ofList name) use word
    let used (name : Octets) (c : Option Char) : Scan Part := do
      if c = some '\x7d' then return .parameter quoted (String.ofList name) .value []
      else
        let (use, isPattern) ← operator c
        ended name use isPattern
    match ← take with
    | none => ended [] .unknown false
    | some '#' =>
      match ← take with
      | none => ended ['#'] .unknown false
      | some c =>
        if c = '_' || c.isAlphanum then
          let name := (← named c).getD []
          match ← take with
          | some '\x7d' => return .parameter quoted (String.ofList name) .length []
          | d => do back d; ended name .unknown false
        else
          let d ← take
          if c = '\x7d' || d != some '\x7d' then
            back d
            used ['#'] (some c)
          else if isSpecialName c then return .parameter quoted (String.singleton c) .length []
          else return .parameter quoted "" .unknown []
    | some '\x7d' => return .parameter quoted "" .unknown []
    | some c =>
      match ← named c with
      | some name => used name (← take)
      | none => ended [] .unknown false
termination_by structural fuel => fuel

/-- The texts that are given with the commands of the line which has ended. -/
def documents : (fuel : Nat) → Scan Unit
  | 0 => tooDeep
  | fuel + 1 => do
    let s ← get
    match s.pending with
    | [] => pure ()
    | p :: more =>
      let read := if p.literal then documentLines p [] else joinedLines p []
      let (text, lines, rest) := read (s.rest.length + 1) s.rest 0
      let text := text.reverse
      let s := { s with rest, line := s.line + lines, pending := more }
      if p.literal then
        set { s with documents := (p.document, [.text true text]) :: s.documents }
      else
        set { s with fronts := [], rest := text, checks := {}, pending := [] }
        let word ← quotedParts .document fuel []
        let t ← get
        set { s with documents := (p.document, word) :: t.documents, count := t.count }
      documents fuel
termination_by structural fuel => fuel

/-- The next token, whatever it may mean where it stands. -/
def rawToken : (fuel : Nat) → Scan Token
  | 0 => tooDeep
  | fuel + 1 => do
    match ← take with
    | none => return .endOfText
    | some ' ' | some '\t' => rawToken fuel
    | some '#' => do skipLine fuel; rawToken fuel
    | some c =>
      match ← signed fuel c with
      | some t => return t
      | none => do
        let sign ← if c = '<' || c = '>' then pure (some c) else do
          back (some c)
          pure none
        match sign with
        | some sign => redirectionToken none sign
        | none => do
          let word ← bareParts false fuel []
          match descriptor? word, ← take with
          | some given, some d =>
            if d = '<' || d = '>' then redirectionToken given d
            else do back (some d); return .word word false
          | _, d => do back d; return .word word false
termination_by structural fuel => fuel

def token : (fuel : Nat) → Scan Token
  | 0 => tooDeep
  | fuel + 1 => do
    let s ← get
    let checks := s.checks
    let t ← if s.again then do
        set { s with again := false }
        pure s.last
      else rawToken fuel
    modify ({ · with last := t })
    match t with
    | .newline =>
      if checks.newlines then do
        documents fuel
        modify fun s => { s with checks, again := false }
        token fuel
      else do check {}; return t
    | .word word _ => do
      let checks := { checks with aliases := checks.aliases || (← get).checks.aliases }
      check {}
      match Word.bare? word with
      | none => return t
      | some text =>
        match (if checks.keywords then Keyword.all.lookup (String.ofList text) else none) with
        | some k => do
          modify ({ · with last := .keyword k })
          return .keyword k
        | none =>
          let s ← get
          match (if checks.aliases then alias? s text else none) with
          | some value => do
            enter text value
            check checks
            token fuel
          | none => return t
    | t => do check {}; return t
termination_by structural fuel => fuel

/-- Commands up to a token that ends them, or up to the end of the line if
they stand by themselves (`top`). -/
def list : (fuel : Nat) → (top mayEnd : Bool) → Option Command → Scan (Option Command)
  | 0, _, _, _ => tooDeep
  | fuel + 1, top, mayEnd, before => do
    check { newlines := !top, keywords := true, aliases := true }
    match ← token fuel with
    | .newline => do
      documents fuel
      return before
    | .endOfText => do
      documents fuel
      modify ({ · with last := .endOfText, again := true })
      return before
    | t => do
      giveBack
      if mayEnd && !top && t.endsList then return before
      let command ← conditional fuel
      let t ← token fuel
      let command := match t with
        | .ampersand => .background command
        | _ => command
      let all := followed before command
      match t with
      | .endOfText => do
        documents fuel
        modify ({ · with last := .endOfText, again := true })
        return some all
      | .newline => do
        giveBack
        list fuel top true (some all)
      | .semicolon | .ampersand => list fuel top true (some all)
      | _ => do
        if top then unexpected
        giveBack
        return some all
termination_by structural fuel => fuel

/-- Pipes that depend on one another. -/
def conditional : (fuel : Nat) → Scan Command
  | 0 => tooDeep
  | fuel + 1 => do
    let first ← pipeline fuel
    conditionalFrom fuel first
termination_by structural fuel => fuel

/-- Pipes that depend on the outcome of one before them. -/
def conditionalFrom : (fuel : Nat) → Command → Scan Command
  | 0, _ => tooDeep
  | fuel + 1, first => do
    let joined (joint : Joint) : Scan Command := do
      check .follow
      let second ← pipeline fuel
      conditionalFrom fuel (.joined joint first second)
    match ← token fuel with
    | .both => joined .success
    | .either => joined .failure
    | _ => do giveBack; return first
termination_by structural fuel => fuel

/-- Commands that are joined by pipes. -/
def pipeline : (fuel : Nat) → Scan Command
  | 0 => tooDeep
  | fuel + 1 => do
    let negated ← match ← token fuel with
      | .keyword .negation => do check .command; pure true
      | _ => do giveBack; pure false
    let first ← command fuel
    let all ← pipelineFrom fuel [first]
    let whole := match all with
      | [command] => command
      | commands => .pipe commands
    return if negated then .negated whole else whole
termination_by structural fuel => fuel

/-- The commands of a pipe behind some that were read. -/
def pipelineFrom : (fuel : Nat) → List Command → Scan (List Command)
  | 0, _ => tooDeep
  | fuel + 1, before => do
    match ← token fuel with
    | .bar => do
      check .follow
      let next ← command fuel
      pipelineFrom fuel (before ++ [next])
    | _ => do giveBack; return before
termination_by structural fuel => fuel

def expect (t : Keyword) : (fuel : Nat) → Scan Unit
  | 0 => tooDeep
  | fuel + 1 => do
    match ← token fuel with
    | .keyword k => if k = t then pure () else expected (.keyword t)
    | _ => expected (.keyword t)
termination_by structural fuel => fuel

def body : (fuel : Nat) → Scan Command
  | 0 => tooDeep
  | fuel + 1 => do return (← list fuel false false none).getD .nothing
termination_by structural fuel => fuel

def command : (fuel : Nat) → Scan Command
  | 0 => tooDeep
  | fuel + 1 => do
    let line := (← get).line
    match ← token fuel with
    | .keyword .ifBranch => do
      let c ← choice fuel
      expect .endIf fuel
      redirects line c fuel
    | .keyword .whileLoop => loop line false fuel
    | .keyword .untilLoop => loop line true fuel
    | .keyword .forEach => do
      let c ← forEach line fuel
      redirects line c fuel
    | .keyword .caseOf => do
      let subject ← match ← token fuel with
        | .word word _ => pure word
        | _ => expected (.word [] false)
      check .follow
      match ← token fuel with
      | .keyword .inWords => pure ()
      | _ => expected (.keyword .inWords)
      let all ← branches fuel []
      redirects line (.select line subject all) fuel
    | .openParenthesis => do
      let inner ← body fuel
      match ← token fuel with
      | .closeParenthesis => pure ()
      | _ => expected .closeParenthesis
      match ← redirects line .nothing fuel with
      | .redirected _ _ rs => return .subshell line inner rs
      | _ => return .subshell line inner []
    | .keyword .open => do
      let inner ← body fuel
      expect .close fuel
      redirects line inner fuel
    | .word _ _ | .redirection _ _ _ => do
      giveBack
      simple line fuel [] [] [] true
    | _ => unexpected
termination_by structural fuel => fuel

/-- The condition and the branches of a choice behind its first word. -/
def choice : (fuel : Nat) → Scan Command
  | 0 => tooDeep
  | fuel + 1 => do
    let condition ← body fuel
    expect .thenBranch fuel
    let yes ← body fuel
    match ← token fuel with
    | .keyword .elifBranch => return .choose condition yes (← choice fuel)
    | .keyword .elseBranch => return .choose condition yes (← body fuel)
    | _ => do giveBack; return .choose condition yes .nothing
termination_by structural fuel => fuel

def loop (line : Nat) (untilSuccess : Bool) : (fuel : Nat) → Scan Command
  | 0 => tooDeep
  | fuel + 1 => do
    let condition ← body fuel
    expect .doBody fuel
    let inner ← body fuel
    expect .doneBody fuel
    redirects line (.repeated untilSuccess condition inner) fuel
termination_by structural fuel => fuel

/-- A loop over words behind its first word. -/
def forEach (line : Nat) : (fuel : Nat) → Scan Command
  | 0 => tooDeep
  | fuel + 1 => do
    let name ← match ← token fuel with
      | .word word _ =>
        match Word.bare? word with
        | some cs => if isName cs then pure (String.ofList cs) else fail "Bad for loop variable"
        | none => fail "Bad for loop variable"
      | _ => fail "Bad for loop variable"
    check .follow
    let words ← match ← token fuel with
      | .keyword .inWords => do
        let words ← wordList fuel []
        match (← get).last with
        | .newline | .semicolon => pure ()
        | _ => unexpected
        pure words
      | .semicolon => pure [Word.arguments]
      | _ => do giveBack; pure [Word.arguments]
    check .follow
    expect .doBody fuel
    let inner ← body fuel
    expect .doneBody fuel
    return .forEach line name words inner
termination_by structural fuel => fuel

/-- Words up to another token, which is the last one then. -/
def wordList : (fuel : Nat) → List Word → Scan (List Word)
  | 0, _ => tooDeep
  | fuel + 1, before => do
    match ← token fuel with
    | .word word _ => wordList fuel (before ++ [word])
    | _ => return before
termination_by structural fuel => fuel

/-- The branches of a selection up to its last word. -/
def branches : (fuel : Nat) → List (List Word × Command) → Scan (List (List Word × Command))
  | 0, _ => tooDeep
  | fuel + 1, before => do
    check { newlines := true, keywords := true }
    match ← token fuel with
    | .keyword .endCase => return before
    | t => do
      if t matches .openParenthesis then discard (token fuel)
      let patterns ← patterns fuel []
      let inner ← list fuel false true none
      let all := before ++ [(patterns, inner.getD .nothing)]
      check { newlines := true, keywords := true }
      match ← token fuel with
      | .keyword .endCase => return all
      | .endBranch => branches fuel all
      | _ => expected .endBranch
termination_by structural fuel => fuel

/-- The patterns of a branch, whose first word was read, up to the
parenthesis. -/
def patterns : (fuel : Nat) → List Word → Scan (List Word)
  | 0, _ => tooDeep
  | fuel + 1, before => do
    let word : Word := match (← get).last with
      | .word word _ => word
      | .keyword k => [.text false k.text.toList]
      | _ => []
    let all := before ++ [word]
    match ← token fuel with
    | .bar => do discard (token fuel); patterns fuel all
    | .closeParenthesis => return all
    | _ => expected .closeParenthesis
termination_by structural fuel => fuel

def redirects (line : Nat) (c : Command) : (fuel : Nat) → Scan Command
  | 0 => tooDeep
  | fuel + 1 => do
    check .command
    let all ← redirectList fuel []
    return if all.isEmpty then c else .redirected line c all
termination_by structural fuel => fuel

/-- Redirections up to another token, which is given back. -/
def redirectList : (fuel : Nat) → List Redirect → Scan (List Redirect)
  | 0, _ => tooDeep
  | fuel + 1, before => do
    match ← token fuel with
    | .redirection descriptor kind withoutTabs => do
      let r ← redirect descriptor kind withoutTabs fuel
      redirectList fuel (before ++ [r])
    | _ => do giveBack; return before
termination_by structural fuel => fuel

/-- A redirection, whose signs were read. -/
def redirect (descriptor : Nat) (kind : RedirectKind) (withoutTabs : Bool) :
    (fuel : Nat) → Scan Redirect
  | 0 => tooDeep
  | fuel + 1 => do
    if kind matches .here _ then check { endMark := true }
    match ← token fuel with
    | .word word _ =>
      match kind with
      | .here document => do
        let literal := word.any fun part => part matches .text true _
        modify fun s => { s with
          pending := s.pending ++ [⟨document, Word.plain word, withoutTabs, literal⟩] }
        return .mk descriptor kind []
      | kind => return .mk descriptor kind word
    | _ => unexpected
termination_by structural fuel => fuel

/-- The words, assignments and redirections of a simple command. -/
def simple (line : Nat) : (fuel : Nat) → (assignments words : List Word) → List Redirect →
    (atStart : Bool) → Scan Command
  | 0, _, _, _, _ => tooDeep
  | fuel + 1, assignments, words, rs, atStart => do
    let done : Scan Command := do
      giveBack
      return .simple line assignments words rs
    check { aliases := atStart }
    match ← token fuel with
    | .word word _ =>
      if atStart && (Word.assignment? word).isSome then
        simple line fuel (assignments ++ [word]) words rs true
      else simple line fuel assignments (words ++ [word]) rs false
    | .redirection descriptor kind withoutTabs => do
      let r ← redirect descriptor kind withoutTabs fuel
      simple line fuel assignments words (rs ++ [r]) atStart
    | .openParenthesis =>
      match words, assignments, rs with
      | [name], [], [] => do
        match ← token fuel with
        | .closeParenthesis => pure ()
        | _ => expected .closeParenthesis
        let name := (Word.bare? name).getD []
        if !isName name || reservedNames.contains (String.ofList name) then
          fail "Bad function name"
        check .follow
        let start := (← get).line
        return .function start (String.ofList name) (← command fuel)
      | _, _, _ => done
    | _ => done
termination_by structural fuel => fuel

end

/-- The next line of commands; nothing at the end of the text. -/
def nextCommand (fuel : Nat) : Scan (Option Command) := do
  modify ({ · with checks := {}, again := false, pending := [] })
  let c ← list fuel true false none
  let s ← get
  if c.isNone && s.again && s.last matches .endOfText then return none
  else return some (c.getD .nothing)

end BoardRig.Shell.Reader
