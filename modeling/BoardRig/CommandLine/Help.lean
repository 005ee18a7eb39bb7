/-
What the program says about its use.

A page of help names what something is for and how it is written, and then
lists its parts: commands, operands and options, each with its meaning in a
column of its own. The options of a command and those of the program are
counted apart and listed by their place in the count; at the same place the
order is that of their letters. The options that explain come last.
-/
import BoardRig.CommandLine.Request
import BoardRig.Text.Wrapped

namespace BoardRig.CommandLine

/-! ## Terms and meanings -/

namespace Parameter

/-- What stands behind the name of an option. -/
def suffix (p : Parameter) : String :=
  match p.meaning with
  | .value _ => " <" ++ p.valueName ++ ">"
  | .tally => "..."
  | _ => ""

/-- An option as it is listed: a short name, or room for one, and a long name. -/
def optionTerm (p : Parameter) : String :=
  (p.short.elim "    " fun c => "-" ++ String.singleton c ++ ", ") ++ p.text ++ p.suffix

/-- What a parameter is for, and where its value comes from if it is not
given. -/
def explanation (environment : String → Option String) (p : Parameter) : String :=
  let inherited := p.inherited.toList.map fun name =>
    "[env: " ++ name ++ "=" ++ (environment name).getD "" ++ "]"
  let fallback := p.fallback.toList.map fun value => "[default: " ++ value ++ "]"
  String.intercalate " " (p.about :: inherited ++ fallback)

/-- The letters that order the options at one place. -/
def sortKey (p : Parameter) : String :=
  match p.short, p.long with
  | some c, _ => String.ofList [c.toLower, if c.isLower then '0' else '1']
  | none, some long => long
  | none, none => p.id

end Parameter

/-- The options of a command and of the program in the order of a list. -/
def listed (own : List Parameter) : List Parameter :=
  let counted := own.zipIdx ++ programOptions.zipIdx
  (counted.mergeSort fun (p, i) (q, j) => i < j || (i == j && !decide (q.sortKey < p.sortKey))).map
    (·.1) ++ explainingOptions

/-! ## Pages -/

/-- A list of terms with their meanings. -/
structure Chapter where
  title : String
  entries : List (String × String)
deriving DecidableEq, Repr

/-- What is said about the program or one of its commands. -/
structure Page where
  about : String
  usage : String
  chapters : List Chapter
deriving DecidableEq, Repr

def pageWidth : Nat := 100

def padded (width : Nat) (text : String) : String :=
  text ++ String.ofList (List.replicate (width - text.length) ' ')

def Chapter.lines (c : Chapter) : List String :=
  let widest := (c.entries.map (·.1.length)).foldl max 0
  let column := widest + 4
  (c.title ++ ":") :: c.entries.map fun (term, meaning) =>
    "  " ++ padded widest term ++ "  " ++
      Text.hanging column (Text.wrap (pageWidth - column) meaning)

def Page.text (p : Page) : String :=
  let chapters := p.chapters.filter (!·.entries.isEmpty)
  String.intercalate "\n\n" (p.about :: ("Usage: " ++ p.usage) ::
    chapters.map fun c => String.intercalate "\n" c.lines) ++ "\n"

def optionChapter (environment : String → Option String) (own : List Parameter) : Chapter where
  title := "Options"
  entries := (listed own).map fun p => (p.optionTerm, p.explanation environment)

/-- What the command is for that explains another one. -/
def helpAbout : String := "Print this message or the help of the given subcommand(s)"

def programUsage (program : String) : String := program ++ " [OPTIONS] <COMMAND>"

def programPage (program about : String) (environment : String → Option String) : Page where
  about
  usage := programUsage program
  chapters := [
    ⟨"Commands", commands.map (fun c => (c.name, c.about)) ++ [(helpCommand, helpAbout)]⟩,
    optionChapter environment []]

def commandPage (program : String) (environment : String → Option String) (c : Command) : Page where
  about := c.about
  usage := String.intercalate " " (
    [program, c.name, "[OPTIONS]"] ++
    ((c.options.filter (·.required)).map fun p => p.text ++ p.suffix) ++
    c.operands.map (·.text))
  chapters := [
    ⟨"Arguments", c.operands.map fun p => (p.text, p.explanation environment)⟩,
    optionChapter environment c.options]

def helpPage (program : String) : Page where
  about := helpAbout
  usage := program ++ " " ++ helpCommand ++ " [COMMAND]..."
  chapters := [⟨"Arguments", [("[COMMAND]...", "Print help for the subcommand(s)")]⟩]

/-- The page on the program, on one of its commands, or on the command that
explains them. -/
def page (program about : String) (environment : String → Option String) : Option String → Page
  | none => programPage program about environment
  | some name =>
    match commands.find? (·.name == name) with
    | some command => commandPage program environment command
    | none => helpPage program

end BoardRig.CommandLine
