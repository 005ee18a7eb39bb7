/-
Writing a JSON document.

The members of an object are written in the order of their keys. Quotes,
backslashes and control characters are escaped and everything else stands
for itself. A document is written without any space, or with one element or
member on each line and two spaces for each level.
-/
import BoardRig.Json.Value
import BoardRig.Text.Radix

namespace BoardRig.Json

/-- A character as it stands inside a string. -/
def escaped (c : Char) : List Char :=
  if c = '"' then ['\\', '"']
  else if c = '\\' then ['\\', '\\']
  else if c = '\n' then ['\\', 'n']
  else if c = '\r' then ['\\', 'r']
  else if c = '\t' then ['\\', 't']
  else if c = '\x08' then ['\\', 'b']
  else if c = '\x0c' then ['\\', 'f']
  else if c.toNat < 0x20 then '\\' :: 'u' :: Radix.hexDigits 4 c.toNat
  else [c]

def quoted (text : String) : String :=
  "\"" ++ String.ofList (text.toList.flatMap escaped) ++ "\""

/-- A member put in front of the members with greater keys. -/
def insertMember (m : String × Json) : List (String × Json) → List (String × Json)
  | [] => [m]
  | n :: rest => if m.1 < n.1 then m :: n :: rest else n :: insertMember m rest

/-- Members in the order of their keys. -/
def sortMembers (members : List (String × Json)) : List (String × Json) :=
  members.foldl (fun sorted m => insertMember m sorted) []

/-- An object with its members in the order of their keys. -/
def record (members : List (String × Json)) : Json :=
  .object (sortMembers members)

mutual

/-- A value without any space. -/
def compact : Json → String
  | .null => "null"
  | .bool true => "true"
  | .bool false => "false"
  | .number literal => literal
  | .string text => quoted text
  | .array elements => "[" ++ String.intercalate "," (compactElements elements) ++ "]"
  | .object members => "\x7b" ++ String.intercalate "," (compactMembers members) ++ "\x7d"
  | .illFormed => "null"

def compactElements : List Json → List String
  | [] => []
  | e :: rest => compact e :: compactElements rest

def compactMembers : List (String × Json) → List String
  | [] => []
  | (key, value) :: rest => (quoted key ++ ":" ++ compact value) :: compactMembers rest

end

/-- Items between brackets, one on each line. -/
def block (opening closing : String) (indent : String) (items : List String) : String :=
  if items.isEmpty then opening ++ closing
  else opening ++ "\n" ++ String.intercalate ",\n" (items.map ((indent ++ "  ") ++ ·)) ++
    "\n" ++ indent ++ closing

mutual

/-- A value over several lines, the first of which stands at `indent`. -/
def prettyAt (indent : String) : Json → String
  | .array elements => block "[" "]" indent (prettyElements (indent ++ "  ") elements)
  | .object members => block "\x7b" "\x7d" indent (prettyMembers (indent ++ "  ") members)
  | .null => "null"
  | .bool true => "true"
  | .bool false => "false"
  | .number literal => literal
  | .string text => quoted text
  | .illFormed => "null"

def prettyElements (indent : String) : List Json → List String
  | [] => []
  | e :: rest => prettyAt indent e :: prettyElements indent rest

def prettyMembers (indent : String) : List (String × Json) → List String
  | [] => []
  | (key, value) :: rest =>
    (quoted key ++ ": " ++ prettyAt indent value) :: prettyMembers indent rest

end

/-- A value over several lines. -/
def pretty (j : Json) : String :=
  prettyAt "" j

end BoardRig.Json
