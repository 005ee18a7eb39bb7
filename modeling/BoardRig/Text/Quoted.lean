/-
Quoted text, as commands and replies are shown in messages.

Quotes and backslashes are escaped, a few control characters have letters of
their own, and a character without a shape of its own is written as its
number. Every other character stands for itself, so that a quoted text stays
on one line.
-/
import BoardRig.Text.Hidden
import BoardRig.Text.Radix

namespace BoardRig.Text

/-- A character by its number in base sixteen. -/
def numbered (c : Char) : List Char :=
  ['\\', 'u', '\x7b'] ++ Nat.toDigits 16 c.toNat ++ ['\x7d']

def quotedChar (c : Char) : List Char :=
  if c = '\x00' then ['\\', '0']
  else if c = '\t' then ['\\', 't']
  else if c = '\r' then ['\\', 'r']
  else if c = '\n' then ['\\', 'n']
  else if c = '"' then ['\\', '"']
  else if c = '\\' then ['\\', '\\']
  else if isHidden c then numbered c
  else [c]

def quote (cs : List Char) : List Char :=
  '"' :: cs.flatMap quotedChar ++ ['"']

def quoteString (s : String) : String :=
  String.ofList (quote s.toList)

/-- An optional string with its quotes, or a word for its absence. -/
def quoteOption : Option String → String
  | some s => "Some(" ++ quoteString s ++ ")"
  | none => "None"

end BoardRig.Text
