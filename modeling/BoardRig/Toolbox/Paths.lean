/-
Programs about paths: their last parts, the directories they are in, where
they lead, and free ones.
-/
import BoardRig.Shell.Directory
import BoardRig.Toolbox.Options

namespace BoardRig.Toolbox.Paths

open Shell State

def trimmed (path : Octets) : Octets := Text.dropEndWhile (· == '/') path

def lastPart (path : Octets) : Octets :=
  let part := (trimmed path).reverse.takeWhile (· != '/')
  if part.isEmpty && path.head? == some '/' then ['/'] else part.reverse

/-- A name without an ending, unless it is nothing else. -/
def withoutEnding (ending name : Octets) : Octets :=
  if Octets.endsWith ending name && name != ending && name.head? != some '/' then
    name.take (name.length - ending.length)
  else name

def directoryPart (path : Octets) : Octets :=
  let before := (trimmed path).reverse.dropWhile (· != '/')
  let directory := trimmed before.reverse
  if !directory.isEmpty then directory
  else if path.head? == some '/' then ['/']
  else ['.']

/-- What stands behind each name that is written. -/
def ending (g : Given) : Char := if g.has "zero" then '\x00' else '\n'

def basename (_ : Launcher) (args : List Octets) : Run Nat := do
  let g ← givenWith [.plain 'a' "multiple", .valued 's' "suffix", .plain 'z' "zero"] false 1 args
  let many := g.has "multiple" || g.has "suffix"
  match g.operands with
  | [] => missingOperand 1
  | path :: rest =>
    let write (path suffix : Octets) : Run Unit :=
      put (withoutEnding suffix (lastPart path) ++ [ending g])
    if many then
      for path in path :: rest do write path ((g.last? "suffix").getD [])
      return 0
    else
      match rest with
      | _ :: extra :: _ => extraOperand 1 extra
      | rest =>
        write path (rest.head?.getD [])
        return 0

def dirname (_ : Launcher) (args : List Octets) : Run Nat := do
  let g ← givenWith [.plain 'z' "zero"] false 1 args
  if g.operands.isEmpty then missingOperand 1
  for path in g.operands do put (directoryPart path ++ [ending g])
  return 0

/-! ## Where paths lead -/

/-- How much of a path has to be there. -/
inductive Needed where
  | all
  | allButLast
  | nothing
deriving DecidableEq

/-- The path without links to what a path leads to. -/
def resolved (p : State) (needed : Needed) (path : Octets) : Except IoError Octets := do
  let text := p.pathOf path
  let shown (id : Nat) : Except IoError Octets :=
    match p.files.path? id with
    | some path => .ok (Octets.ofString path)
    | none => .error .noSuchFile
  if needed = .nothing then
    match p.files.place text with
    | .ok (.node node) => shown node
    | .ok (.vacant directory name) =>
      return Octets.ofString (Path.join (Octets.text (← shown directory)) name)
    | .error _ =>
      if path.isEmpty then throw .noSuchFile
      else return Octets.ofString (walked "/" text)
  else
    match ← p.files.place (if needed = .all then text else Octets.text (trimmed (Octets.ofString text))) with
    | .node node => shown node
    | .vacant directory name =>
      if needed = .all then throw .noSuchFile
      else return Octets.ofString (Path.join (Octets.text (← shown directory)) name)

/-- How much of a path options ask for. -/
def neededBy (g : Given) (default : Needed) : Needed :=
  match g.lastOf? ["canonicalize-existing", "canonicalize-missing", "canonicalize"] with
  | some "canonicalize-existing" => .all
  | some "canonicalize-missing" => .nothing
  | some _ => .allButLast
  | none => default

/-- A path as seen from a directory, both without links. -/
def relative (directory path : Octets) : Octets :=
  let parts (cs : Octets) : List Octets := (Text.split '/' cs).filter (!·.isEmpty)
  let rec strip : List Octets → List Octets → List Octets
    | a :: as, b :: bs => if a = b then strip as bs else (a :: as).map (fun _ => ['.', '.']) ++ b :: bs
    | as, bs => as.map (fun _ => ['.', '.']) ++ bs
  let steps := strip (parts directory) (parts path)
  if steps.isEmpty then ['.'] else List.intercalate ['/'] steps

/-- Write where paths lead, without links. -/
def realpath (_ : Launcher) (args : List Octets) : Run Nat := do
  let g ← given [.plain 'e' "canonicalize-existing", .plain 'm' "canonicalize-missing",
    .plain 'q' "quiet", .plain 's' "strip", .plain 's' "no-symlinks", .plain 'z' "zero",
    .plain 'L' "logical", .plain 'P' "physical", .long "relative-to" .value,
    .long "relative-base" .value] args
  if g.operands.isEmpty then missingOperand 1
  forEach g.operands fun path => do
    let p ← get
    let found := if g.has "strip" || g.has "no-symlinks" then
        .ok (Octets.ofString (walked "/" (p.pathOf path)))
      else resolved p (neededBy g .allButLast) path
    match found with
    | .ok full =>
      let base? := (g.last? "relative-to").bind fun d => (resolved p .allButLast d).toOption
      put ((match base? with
        | some base => relative base full
        | none => full) ++ [ending g])
      return 0
    | .error e =>
      if !g.has "quiet" then faultAbout path e
      return 1

/-- Write what links hold, or where paths lead. -/
def readlink (_ : Launcher) (args : List Octets) : Run Nat := do
  let g ← given [.plain 'e' "canonicalize-existing", .plain 'm' "canonicalize-missing",
    .plain 'f' "canonicalize", .plain 'n' "no-newline", .plain 'q' "quiet", .plain 's' "silent",
    .plain 'v' "verbose", .plain 'z' "zero"] args
  if g.operands.isEmpty then missingOperand 1
  let follows := (g.lastOf? ["canonicalize-existing", "canonicalize-missing",
    "canonicalize"]).isSome
  let last := if g.has "no-newline" && g.operands.length = 1 then [] else [ending g]
  forEach g.operands fun path => do
    let p ← get
    let found : Except IoError Octets :=
      if follows then resolved p (neededBy g .allButLast) path
      else
        match p.files.findName (p.pathOf path) with
        | .error e => .error e
        | .ok node =>
          match p.files.content? node with
          | some (.link target) => .ok (Octets.ofString target)
          | _ => .error .invalidArgument
    match found with
    | .ok target =>
      put (target ++ last)
      return 0
    | .error e =>
      if g.has "verbose" then faultAbout path e
      return 1

def pwd (_ : Launcher) (args : List Octets) : Run Nat := do
  let g ← given [.plain 'L' "logical", .plain 'P' "physical"] args
  let p ← get
  let named := (p.value? "PWD").filter fun cs => cs.head? == some '/' &&
    (p.files.find (Octets.text cs)).toOption == (p.files.find p.directory).toOption
  if !g.operands.isEmpty then fault "ignoring non-option arguments"
  let logical := g.lastOf? ["logical", "physical"] == some "logical"
  putLine (if logical then named.getD (Octets.ofString p.physicalDirectory)
    else Octets.ofString p.physicalDirectory)
  return 0

/-! ## Free paths -/

/-- Letters for the free part of a name, by a number. -/
def letters (count n : Nat) : Octets :=
  (List.range count).map fun k => Char.ofNat (97 + (n * 7 + k * 11 + n / Nat.pow 26 k) % 26)

/-- The first free path that a template gives, looking at most `fuel` ahead. -/
def freePath (p : State) (before after : Octets) (count : Nat) : (fuel n : Nat) → Octets
  | 0, n => before ++ letters count n ++ after
  | fuel + 1, n =>
    let path := before ++ letters count n ++ after
    if p.files.exists? (p.pathOf path) then freePath p before after count fuel (n + 1) else path

/-- Make a file or a directory under a free name, and write that name. -/
def mktemp (_ : Launcher) (args : List Octets) : Run Nat := do
  let g ← given [.plain 'd' "directory", .plain 'u' "dry-run", .plain 'q' "quiet",
    .long "suffix" .value, .long "tmpdir" .attached, .valued 'p' "p", .plain 't' "t"] args
  match g.operands with
  | _ :: _ :: _ => misused 1 "too many templates".toList
  | operands =>
    let p ← get
    let temporary := (p.value? "TMPDIR").filter (!·.isEmpty) |>.getD "/tmp".toList
    let template := (operands.head?).getD "tmp.XXXXXXXXXX".toList
    let within := operands.isEmpty || g.has "tmpdir" || g.has "p" || g.has "t"
    let directory := (((g.last? "tmpdir").or (g.last? "p")).filter (!·.isEmpty)).getD temporary
    let tail := (g.last? "suffix").getD []
    let behind := template.reverse.takeWhile (· != 'X')
    let front := template.take (template.length - behind.length)
    let count := (front.reverse.takeWhile (· == 'X')).length
    if count < 3 then
      refuse 1 ("too few X's in template ".toList ++ Quote.text template)
    let before := front.take (front.length - count)
    let before := if within then directory ++ '/' :: before else before
    let path := freePath p before (behind.reverse ++ tail) count 1000 (p.id + p.next)
    if !g.has "dry-run" then
      let node := if g.has "directory" then { Node.emptyDirectory with mode := 0o700 }
        else { Node.ofBytes [] false with mode := 0o600 }
      match p.files.makeNode (p.pathOf path) node with
      | .ok files => set { p with files }
      | .error e =>
        if !g.has "quiet" then
          faultAt ("failed to create ".toList ++
            (if g.has "directory" then "directory".toList else "file".toList) ++
            " via template ".toList ++ Quote.text (before ++ List.replicate count 'X' ++
            behind.reverse ++ tail)) e
        throw (.exit 1)
    putLine path
    return 0

end BoardRig.Toolbox.Paths
