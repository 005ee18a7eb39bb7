/-
Programs that tell about the machine, its user and its clock.
-/
import BoardRig.Toolbox.Files

namespace BoardRig.Toolbox.Machine

open Shell State

/-- What the machine says about itself. -/
structure Facts where
  system : String := "Linux"
  host : String := "localhost"
  release : String := "6.1.0"
  version : String := "#1 SMP"
  hardware : String := "x86_64"
  kind : String := "GNU/Linux"

/-- What this machine says about itself. -/
def facts : Facts := {}

def uname (_ : Launcher) (args : List Octets) : Run Nat := do
  let g ← given [.plain 'a' "all", .plain 's' "kernel-name", .plain 'n' "nodename",
    .plain 'r' "kernel-release", .plain 'v' "kernel-version", .plain 'm' "machine",
    .plain 'p' "processor", .plain 'i' "hardware-platform", .plain 'o' "operating-system"] args
  if let some extra := g.operands.head? then extraOperand 1 extra
  let all := g.has "all"
  let parts : List (String × String) := [
    ("kernel-name", facts.system), ("nodename", facts.host), ("kernel-release", facts.release),
    ("kernel-version", facts.version), ("machine", facts.hardware),
    ("processor", facts.hardware), ("hardware-platform", facts.hardware),
    ("operating-system", facts.kind)]
  let shown := parts.filter fun (word, _) => all || g.has word
  let shown := if shown.isEmpty then parts.take 1 else shown
  putLine (List.intercalate [' '] (shown.map fun part => part.2.toList))
  return 0

def telling (text : Octets) (_ : Launcher) (_ : List Octets) : Run Nat := do
  putLine text
  return 0

def hostname : Tool := telling facts.host.toList

def arch : Tool := telling facts.hardware.toList

/-- Write how many processors there are. -/
def nproc : Tool := telling ['4']

def whoami (_ : Launcher) (args : List Octets) : Run Nat := do
  let g ← given [] args
  if let some extra := g.operands.head? then extraOperand 1 extra
  putLine "root".toList
  return 0

def identity (_ : Launcher) (args : List Octets) : Run Nat := do
  let g ← given [.plain 'u' "user", .plain 'g' "group", .plain 'G' "groups", .plain 'n' "name",
    .plain 'r' "real", .plain 'z' "zero"] args
  match g.operands.find? fun user => user != "root".toList && user != ['0'] with
  | some user => refuse 1 (Quote.text user ++ ": no such user".toList)
  | none =>
    let short := g.has "user" || g.has "group" || g.has "groups"
    if g.has "name" && !short then
      refuse 1 "cannot print only names or real IDs in default format".toList
    putLine (if !short then "uid=0(root) gid=0(root) groups=0(root)".toList
      else if g.has "name" then "root".toList else ['0'])
    return 0

def groups : Tool := telling "root".toList

/-- Tell which terminal the input is; it is none. -/
def tty (_ : Launcher) (args : List Octets) : Run Nat := do
  let g ← given [.plain 's' "silent", .long "quiet" .nothing] args
  if !(g.has "silent" || g.has "quiet") then putLine "not a tty".toList
  return 1

/-- How precisely a time is written in the order of a standard. -/
def isoFormat? (separator : Char) (precision : Octets) : Option String :=
  let precision := Octets.text precision
  let whole := "%F" ++ String.singleton separator
  if precision = "" || "date".startsWith precision then some "%F"
  else if "hours".startsWith precision then some (whole ++ "%H%:z")
  else if "minutes".startsWith precision then some (whole ++ "%H:%M%:z")
  else if "seconds".startsWith precision then some (whole ++ "%T%:z")
  else if "ns".startsWith precision then
    some (whole ++ (if separator = 'T' then "%T,%N%:z" else "%T.%N%:z"))
  else none

def date (_ : Launcher) (args : List Octets) : Run Nat := do
  let g ← given [.valued 'd' "date", .plain 'u' "utc", .plain 'u' "universal",
    .valued 'f' "file", .valued 'r' "reference", ⟨some 'I', "iso-8601", .attached⟩,
    .plain 'R' "rfc-email", .plain 'R' "rfc-2822", .long "rfc-3339" .value,
    .valued 's' "set", .long "debug" .nothing] args
  let p ← get
  let zone := if g.has "utc" || g.has "universal" then {} else Files.zoneOf p
  let now : Int := (FileSystem.beginning + p.time : Nat)
  let standard (separator : Char) (option : String) (text : Octets) : Run Octets := do
    match isoFormat? separator text with
    | some format => return format.toList
    | none => misused 1 ("invalid argument ".toList ++ Quote.always text ++
        (" for '--" ++ option ++ "'\nValid arguments are:").toList ++
        ((if separator = 'T' then ["hours", "minutes", "date", "seconds", "ns"]
          else ["date", "seconds", "ns"]).flatMap fun word => ("\n  - '" ++ word ++ "'").toList))
  let chosen : Option Octets ← match g.last? "iso-8601", g.last? "rfc-3339" with
    | some text, _ => pure (some (← standard 'T' "iso-8601" text))
    | none, some text => pure (some (← standard ' ' "rfc-3339" text))
    | none, none =>
      pure (if g.has "rfc-email" || g.has "rfc-2822" then some "%a, %d %b %Y %T %z".toList else none)
  let format : Octets ← match g.operands with
    | _ :: extra :: _ => extraOperand 1 extra
    | ['+' :: text] =>
      if chosen.isSome then refuse 1 "multiple output formats specified".toList
      else pure text
    | [text] =>
      if g.has "date" || g.has "reference" || g.has "file" then
        misused 1 ("the argument ".toList ++ Quote.text text ++ (" lacks a leading '+';\n" ++
          "when using an option to specify date(s), any non-option\n" ++
          "argument must be a format string beginning with '+'").toList)
      else refuse 1 ("invalid date ".toList ++ Quote.text text)
    | [] => pure (chosen.getD "%a %b %e %T %Z %Y".toList)
  let tell (time : Int) : Run Unit :=
    putLine (Calendar.formatIn zone (time / Nat.pow 10 9) (time % Nat.pow 10 9).toNat format)
  let tellPhrase (text : Octets) : Run Nat := do
    match TimePhrase.time? now zone.ahead text with
    | some time =>
      tell time
      return 0
    | none =>
      faultWith ("invalid date ".toList ++ Quote.text text)
      return 1
  match g.last? "file", g.last? "date", g.last? "reference" with
  | some file, _, _ =>
    match ← contentOf file with
    | .error e =>
      faultAbout file e
      return 1
    | .ok cs => forEach (Octets.bareLines cs) tellPhrase
  | none, some text, _ => tellPhrase text
  | none, none, some file =>
    match Files.target p file with
    | .ok node =>
      tell (((p.files.node? node).map (·.modified)).getD 0 : Nat)
      return 0
    | .error e =>
      faultAbout file e
      return 1
  | none, none, none =>
    tell now
    return 0

end BoardRig.Toolbox.Machine
