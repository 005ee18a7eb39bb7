/-
Programs that make, remove, copy and move files.

Each of them goes on with its other operands after a failure, and its status
tells whether there was one.
-/
import BoardRig.FileSystem.Names
import BoardRig.Shell.Directory
import BoardRig.Toolbox.Paths
import BoardRig.Toolbox.TimePhrase

namespace BoardRig.Toolbox.Files

open Shell State

/-- The zone that a process is told to use. -/
def zoneOf (p : State) : Calendar.Zone := ((p.value? "TZ").map Calendar.Zone.read).getD {}

/-! ## What paths lead to -/

/-- The node that a path names, where a link stands for itself. -/
def named (p : State) (path : Octets) : Except IoError Nat := p.files.findName (p.pathOf path)

def target (p : State) (path : Octets) : Except IoError Nat := p.files.find (p.pathOf path)

def isLink (p : State) (path : Octets) : Bool :=
  match named p path with
  | .ok node => ((p.files.content? node) matches some (.link _))
  | .error _ => false

def isDirectory (p : State) (path : Octets) : Bool := p.files.isDirectory (p.pathOf path)

def inside (directory name : Octets) : Octets :=
  if directory.getLast? == some '/' then directory ++ name else directory ++ '/' :: name

def namesIn (p : State) (node : Nat) : List Octets :=
  (p.files.entries node).map fun e => Octets.ofString e.1

/-- Change the files, or complain about what has failed. -/
def attempt (what : Octets) (change : State → Except IoError FileSystem) : Run Nat := do
  let p ← get
  match change p with
  | .ok files =>
    set { p with files }
    return 0
  | .error e =>
    faultAt what e
    return 1

def about (text : String) (name : Octets) : Octets := text.toList ++ ' ' :: Quote.always name

/-- Two names with a sign between them. -/
def arrow (source sign target : Octets) : Octets :=
  Quote.always source ++ ' ' :: sign ++ ' ' :: Quote.always target

/-- Ask a question; whether the next line of the input says yes. -/
def agreed (question : Octets) : Run Bool := do
  discard (writeTo 2 (Octets.ofString (← get).name ++ ": ".toList ++ question ++ "? ".toList))
  match ← readLine 0 with
  | .ok (c :: _) => return c = 'y' || c = 'Y'
  | _ => return false

/-! ## Directories -/

/-- Make a directory with permissions, and say so if there is something to say. -/
def makeOne (said : Option String) (mode : Nat) (path : Octets) : Run Nat := do
  let status ← attempt (about "cannot create directory" path) fun p =>
    p.files.makeNode (p.pathOf path) { Node.emptyDirectory with mode }
  match said with
  | some text =>
    if status = 0 then putLine (Octets.ofString (← get).name ++ about (": " ++ text) path)
  | none => pure ()
  return status

/-- What is said about new directories, if it was asked for. -/
def saying (g : Given) (text : String) : Option String := if g.has "verbose" then some text else none

/-- The paths of all directories on a way, the whole way last. -/
def ways (path : Octets) : List Octets :=
  let parts := (Text.split '/' path).filter (!·.isEmpty)
  let start : Octets := if path.head? == some '/' then ['/'] else []
  (List.range parts.length).map fun n =>
    start ++ List.intercalate ['/'] (parts.take (n + 1))

/-- Make a directory, and those on the way to it that are not there. -/
def makeWay (said : Option String) (mode usual : Nat) (path : Octets) : Run Nat := do
  let all := ways path
  all.zipIdx.foldlM (fun status (way, n) => do
    if status != 0 then return status
    let p ← get
    if isDirectory p way then return status
    else if n + 1 < all.length && (target p way).toOption.isSome then
      faultAt (about "cannot create directory" way) .notADirectory
      return 1
    else makeOne said (if n + 1 = all.length then mode else usual ||| 0o300) way) 0

/-- The permissions that an option asks for. -/
def modeIn (g : Given) (directory : Bool) (before usual : Nat) : Run Nat := do
  match g.last? "mode" with
  | none => return usual
  | some text =>
    match mode? directory (← get).mask text before with
    | some mode => return mode
    | none => refuse 1 ("invalid mode ".toList ++ Quote.text text)

def mkdir (_ : Launcher) (args : List Octets) : Run Nat := do
  let g ← given [.plain 'p' "parents", .valued 'm' "mode", .plain 'v' "verbose"] args
  if g.operands.isEmpty then missingOperand 1
  let usual := 0o777 &&& (0o777 ^^^ (← get).mask)
  let mode ← modeIn g true 0o777 usual
  forEach g.operands fun path =>
    if g.has "parents" then makeWay (saying g "created directory") mode usual path
    else makeOne (saying g "created directory") mode path

def rmdir (_ : Launcher) (args : List Octets) : Run Nat := do
  let g ← given [.plain 'p' "parents", .plain 'v' "verbose",
    .long "ignore-fail-on-non-empty" .nothing] args
  if g.operands.isEmpty then missingOperand 1
  forEach g.operands fun path =>
    (if g.has "parents" then (ways path).reverse else [path]).foldlM (fun status way => do
      if status != 0 then return status
      if g.has "verbose" then
        putLine (Octets.ofString (← get).name ++ about ": removing directory," way)
      let p ← get
      match p.files.removeDirectory (p.pathOf way) with
      | .ok files =>
        set { p with files }
        return 0
      | .error e =>
        if e = .notEmpty && g.has "ignore-fail-on-non-empty" then return 0
        let what := if way = path then about "failed to remove" way
          else about "failed to remove directory" way
        faultAt what e
        return 1) 0

/-! ## Removing -/

/-- What a node is called in a question about its removal. -/
def removalOf (p : State) (node : Nat) : String :=
  match p.files.content? node with
  | some (.directory _) => "remove directory"
  | some (.file []) => "remove regular empty file"
  | some (.link _) => "remove symbolic link"
  | some (.device _) => "remove character special file"
  | _ => "remove regular file"

/-- Remove what a path names, with all that is in it, asking about each thing. -/
def removeAsking (verbose : Bool) : (fuel : Nat) → Octets → Run Nat
  | 0, _ => return 1
  | fuel + 1, path => do
    let p ← get
    match named p path with
    | .error e =>
      faultAt (about "cannot remove" path) e
      return 1
    | .ok node =>
      let isDirectory := p.files.isDirectoryNode node
      if isDirectory && !(namesIn p node).isEmpty then
        if !(← agreed (about "descend into directory" path)) then return 0
        for name in namesIn p node do
          discard (removeAsking verbose fuel (inside path name))
        if !(namesIn (← get) node).isEmpty then return 0
      if !(← agreed (about (removalOf p node) path)) then return 0
      let status ← attempt (about "cannot remove" path) fun p =>
        if isDirectory then p.files.removeDirectory (p.pathOf path)
        else p.files.unlink (p.pathOf path)
      if verbose && status = 0 then
        putLine ((if isDirectory then "removed directory " else "removed ").toList ++
          Quote.always path)
      return status

/-- Remove what a path names, with all that is in it. -/
def removeAll (verbose : Bool) : (fuel : Nat) → Octets → Run Nat
  | 0, _ => return 1
  | fuel + 1, path => do
    let p ← get
    let node? := (named p path).toOption
    let isDirectory := node?.any p.files.isDirectoryNode
    if isDirectory then
      for name in (node?.map (namesIn p)).getD [] do
        discard (removeAll verbose fuel (inside path name))
    let status ← attempt (about "cannot remove" path) fun p =>
      if isDirectory then p.files.removeDirectory (p.pathOf path)
      else p.files.unlink (p.pathOf path)
    if verbose && status = 0 then
      putLine ((if isDirectory then "removed directory " else "removed ").toList ++
        Quote.always path)
    return status

/-- Remove files, and directories if that is asked for. -/
def rm (_ : Launcher) (args : List Octets) : Run Nat := do
  let g ← given [.plain 'f' "force", .plain 'r' "recursive", .plain 'R' "R", .plain 'd' "dir",
    .plain 'v' "verbose", .plain 'i' "i", .plain 'I' "I", .long "interactive" .attached,
    .long "preserve-root" .attached, .long "no-preserve-root" .nothing,
    .long "one-file-system" .nothing] args
  let force := g.lastOf? ["force", "i"] == some "force"
  if g.operands.isEmpty && !force then missingOperand 1
  let recursive := g.has "recursive" || g.has "R"
  let interactive : Option String ← match g.last? "interactive" with
    | none => pure none
    | some [] => pure (some "always")
    | some value =>
      some <$> chosen 1 "--interactive" [["never", "no", "none"], ["once"], ["always", "yes"]] value
  let last := g.lastOf? ["force", "i", "I", "interactive"]
  let asks := last == some "i" || (last == some "interactive" && interactive == some "always")
  let asksOnce := last == some "I" || (last == some "interactive" && interactive == some "once")
  if asksOnce && (recursive || 3 < g.operands.length) then
    let n := g.operands.length
    let question := "remove ".toList ++ Octets.ofNat n ++
      (if n = 1 then " argument" else " arguments").toList ++
      (if recursive then " recursively" else "").toList
    if !(← agreed question) then return 0
  forEach g.operands fun path => do
    let p ← get
    let last := Paths.lastPart path
    match named p path with
    | .error e =>
      if force && (e = .noSuchFile || e = .notADirectory || e = .invalidArgument) then return 0
      faultAt (about "cannot remove" path) e
      return 1
    | .ok node =>
      let isDirectory := p.files.isDirectoryNode node
      if isDirectory && !recursive && !(g.has "dir") then
        faultAt (about "cannot remove" path) .isADirectory
        return 1
      else if recursive && (last = ['.'] || last = ['.', '.']) then
        faultWith ("refusing to remove '.' or '..' directory: skipping ".toList ++
          Quote.always path)
        return 1
      else if recursive && node = FileSystem.root && !g.has "no-preserve-root" then
        faultWith "it is dangerous to operate recursively on '/'".toList
        faultWith "use --no-preserve-root to override this failsafe".toList
        return 1
      else if asks then
        if isDirectory && !(namesIn p node).isEmpty && !recursive then
          faultAt (about "cannot remove" path) .notEmpty
          return 1
        else removeAsking (g.has "verbose") 64 path
      else if isDirectory && !recursive then
        let status ← attempt (about "cannot remove" path) fun p =>
          p.files.removeDirectory (p.pathOf path)
        if status = 0 && g.has "verbose" then
          putLine ("removed directory ".toList ++ Quote.always path)
        return status
      else removeAll (g.has "verbose") 64 path

def unlink (_ : Launcher) (args : List Octets) : Run Nat := do
  let g ← given [] args
  match g.operands with
  | [] => missingOperand 1
  | [path] => attempt (about "cannot unlink" path) fun p => p.files.unlink (p.pathOf path)
  | _ :: extra :: _ => extraOperand 1 extra

/-! ## Copying -/

/-- What becomes of a file that is where another one is to go. -/
inductive Existing where
  /-- The other one takes its place. -/
  | replaced
  /-- That is a question. -/
  | asked
  /-- It stays. -/
  | kept
deriving DecidableEq, Repr

/-- What names of replaced files are kept under, if they are: with an ending,
or with a number. -/
inductive Backup where
  | simple (ending : Octets)
  | numbered

/-- The path under which a replaced file is kept. -/
def Backup.path (b : Backup) (p : State) (path : Octets) : Octets :=
  match b with
  | .simple ending => path ++ ending
  | .numbered =>
    let name (n : Nat) : Octets := path ++ ".~".toList ++ Octets.ofNat n ++ ['~']
    let free := (List.range 100).find? fun n => (named p (name (n + 1))).toOption.isNone
    name (free.getD 0 + 1)

/-- Keep what a path names under another name, if that is asked for; yields what
is said about it. -/
def keepOld (backup : Option Backup) (path : Octets) : Run Octets := do
  match backup with
  | none => return []
  | some b =>
    let p ← get
    let other := b.path p path
    match p.files.rename (p.pathOf path) (p.pathOf other) with
    | .ok files =>
      set { p with files }
      return " (backup: ".toList ++ Quote.always other ++ [')']
    | .error _ => return []

def backupIn (g : Given) : Run (Option Backup) := do
  let ending := g.last? "suffix"
  match g.lastOf? ["b", "backup"], g.last? "backup" with
  | none, _ => return ending.map .simple
  | some "backup", some kind =>
    let kind := if kind.isEmpty then "existing".toList else kind
    match ← chosen 1 "backup type"
      [["none", "off"], ["simple", "never"], ["existing", "nil"], ["numbered", "t"]] kind with
    | "none" => return none
    | "numbered" => return some .numbered
    | _ => return some (.simple (ending.getD ['~']))
  | _, _ => return some (.simple (ending.getD ['~']))

def backupFlags : List Flag :=
  [.plain 'b' "b", .long "backup" .attached, .valued 'S' "suffix"]

/-- What becomes of files that are in the way, as the last of some options says,
and whether only newer files go there. -/
def existingIn (g : Given) (words : List String) : Run (Existing × Bool) := do
  let update : Option String ← match g.last? "update" with
    | none => pure none
    | some [] => pure (some "older")
    | some kind => some <$> chosen 1 "--update" [["all"], ["none"], ["older"]] kind
  let newer := g.has "u" || update == some "older"
  let existing := match g.lastOf? words with
    | some "no-clobber" => Existing.kept
    | some "interactive" => .asked
    | _ => if update == some "none" then .kept else .replaced
  return (existing, newer)

/-- What a copy is asked for. -/
structure Wish where
  recursive : Bool
  force : Bool
  existing : Existing
  backup : Option Backup
  newer : Bool
  keepLinks : Bool
  keepModes : Bool
  verbose : Bool
  links : Bool
  symbolic : Bool
  /-- The directory that the copy is made in, with the paths of both; it is no
  part of what is copied. -/
  within : Option (Nat × Octets × Octets) := none

/-- Put octets into the file at a path, which is made if it is not there. -/
def putInto (path : Octets) (mode : Nat) (cs : Octets) (target : Octets) : Run Nat := do
  let p ← get
  let isNew := (Files.target p path).toOption.isNone
  match ← openSink (p.pathOf path) true false false with
  | .error e =>
    let e := if e = .isADirectory then IoError.notADirectory else e
    faultAt (about "cannot create regular file" target) e
    return 1
  | .ok opened =>
    let number := Nat.pow 2 20 + p.descriptors.length
    modify (withDescriptor number opened)
    let failure ← writeTo number cs
    modify (withoutDescriptor number)
    match failure with
    | some e =>
      faultAt (about "error writing" target) e
      return 1
    | none =>
      if isNew then
        modify fun p => { p with
          files := ((p.files.setMode (p.pathOf path) (mode &&& (0o777 ^^^ (p.mask &&& 0o777)))).toOption).getD
            p.files }
      return 0

/-- Give a copy the permissions and the time of what it is a copy of. -/
def keepModes (source : Node) (path : Octets) : Run Unit := modify fun p =>
  match named p path with
  | .ok node =>
    { p with files := p.files.modify node fun n =>
        { n with mode := source.mode, modified := source.modified } }
  | .error _ => p

/-- Copy what one path names to another path. -/
def copy (w : Wish) : (fuel : Nat) → (source target : Octets) → Run Nat
  | 0, _, _ => return 1
  | fuel + 1, source, target => do
    let p ← get
    let found := if w.keepLinks then named p source else Files.target p source
    match found.toOption.bind fun node => (p.files.node? node).map fun n => (node, n) with
    | none => do
      faultAt (about "cannot stat" source) (match found with
        | .error e => e
        | .ok _ => .noSuchFile)
      return 1
    | some (origin, node) =>
      let old? := (if w.keepLinks then named p target else Files.target p target).toOption
      let sourceIsDirectory := p.files.isDirectoryNode origin
      let sameName := old? == some origin && w.links
      if sameName then return 0
      if sourceIsDirectory && !w.recursive then
        faultWith ("-r not specified; omitting directory ".toList ++ Quote.always source)
        return 1
      else if old? == some origin then
        faultWith (arrow source "and".toList target ++ " are the same file".toList)
        return 1
      else
        match old? with
        | some old =>
          let oldNode := (p.files.node? old).getD node
          if w.newer && !sourceIsDirectory && node.modified ≤ oldNode.modified then return 0
          if w.existing = .kept && !sourceIsDirectory then return 0
          if sourceIsDirectory && !p.files.isDirectoryNode old then
            faultWith (about "cannot overwrite non-directory" target ++
              about " with directory" source)
            return 1
          if !sourceIsDirectory && p.files.isDirectoryNode old then
            faultWith (about "cannot overwrite directory" target ++ " with non-directory".toList)
            return 1
          if w.existing = .asked && !sourceIsDirectory then
            if !(← agreed (about "overwrite" target)) then return 1
        | none => pure ()
        let kept ← if sourceIsDirectory || old?.isNone then pure [] else keepOld w.backup target
        let p ← get
        let old? := (if w.keepLinks then named p target else Files.target p target).toOption
        let said : Run Unit := do
          if w.verbose then putLine (arrow source ['-', '>'] target ++ kept)
        match node.content with
        | .directory _ =>
          if let some (made, top, goal) := w.within then
            if origin = made then
              faultWith (about "cannot copy a directory," top ++ about ", into itself," goal)
              return 1
          let new : Node := { Node.emptyDirectory with mode := node.mode &&& (0o777 ^^^ p.mask) }
          let made ← match old? with
            | some _ => pure 0
            | none => attempt (about "cannot create directory" target) fun p =>
              p.files.makeNode (p.pathOf target) new
          if made != 0 then return 1
          if old?.isNone then said
          let p ← get
          let w := if w.within.isNone then
              { w with within := (named p target).toOption.map fun made => (made, source, target) }
            else w
          let status ← (namesIn p origin).foldlM (fun status name => do
            return max status (← copy w fuel (inside source name) (inside target name))) 0
          if w.keepModes then keepModes node target
          return status
        | .link text =>
          if old?.isSome then
            let _ ← attempt (about "cannot remove" target) fun p =>
              p.files.unlink (p.pathOf target)
          let status ← attempt (about "cannot create symbolic link" target) fun p =>
            p.files.makeNode (p.pathOf target) (.link text)
          if status = 0 then said
          return status
        | _ =>
          if w.symbolic || w.links then
            if w.force && old?.isSome then
              let _ ← attempt [] fun p => p.files.unlink (p.pathOf target)
            let status ← attempt (arrowless w source target) fun p =>
              if w.symbolic then p.files.makeNode (p.pathOf target) (.link (Octets.text source))
              else p.files.addName origin (p.pathOf target)
            if status = 0 then said
            return status
          let dangling := old?.isNone && isLink p target
          if dangling then
            faultWith ("not writing through dangling symlink ".toList ++ Quote.always target)
            return 1
          match ← contentAt (p.pathOf source) with
          | .error e => do
            faultAt (about "cannot open" source ++ " for reading".toList) e
            return 1
          | .ok cs => do
            let mode := if (node.content matches .program _) then 0o755 else node.mode
            let status ← match node.content, old? with
              | .program name, none =>
                attempt (about "cannot create regular file" target) fun p =>
                  p.files.makeNode (p.pathOf target) ⟨.program name, mode, p.files.now⟩
              | _, _ => putInto target mode cs target
            if status = 0 then
              said
              if w.keepModes then keepModes node target
            return status
where
  /-- What has failed when a link could not be made. -/
  arrowless (w : Wish) (source target : Octets) : Octets :=
    if w.symbolic then about "cannot create symbolic link" target ++ about " to" source
    else about "cannot create hard link" target ++ about " to" source

/-- The sources and the directory or the path that they go to. -/
def sourcesAndTarget (g : Given) : Run (List Octets × Octets × Bool) := do
  let p ← get
  match g.last? "target-directory", g.operands with
  | _, [] => misused 1 "missing file operand".toList
  | some directory, sources => do
    if !isDirectory p directory then
      faultAt ("target directory ".toList ++ Quote.always directory)
        (if (target p directory).toOption.isSome then .notADirectory else .noSuchFile)
      throw (.exit 1)
    return (sources, directory, true)
  | none, [source] =>
    misused 1 ("missing destination file operand after ".toList ++ Quote.always source)
  | none, sources =>
    let last := sources.getLast?.getD []
    let direct := g.has "no-target-directory"
    if direct then
      if let some extra := sources[2]? then extraOperand 1 extra
      return (sources.dropLast, last, false)
    else if isDirectory p last then return (sources.dropLast, last, true)
    else if sources.length = 2 then return (sources.dropLast, last, false)
    else
      faultAt ("target ".toList ++ Quote.always last)
        (if (target p last).toOption.isSome then .notADirectory else .noSuchFile)
      throw (.exit 1)

def goal (intoDirectory : Bool) (source last : Octets) : Octets :=
  if intoDirectory then inside last (Paths.lastPart source) else last

def cp (_ : Launcher) (args : List Octets) : Run Nat := do
  let g ← given ([.plain 'r' "recursive", .plain 'R' "R", .plain 'a' "archive", .plain 'f' "force",
    .plain 'i' "interactive", .plain 'n' "no-clobber", .plain 'p' "p", .plain 'v' "verbose",
    .plain 'T' "no-target-directory", .valued 't' "target-directory", .plain 'u' "u",
    .long "update" .attached, .plain 'l' "link", .plain 's' "symbolic-link", .plain 'd' "d",
    .plain 'P' "no-dereference", .plain 'L' "dereference", .plain 'H' "H",
    .long "preserve" .attached, .plain 'x' "one-file-system", .long "parents" .nothing,
    .long "no-preserve" .value, .long "reflink" .attached, .long "sparse" .value,
    .long "strip-trailing-slashes" .nothing, .long "remove-destination" .nothing] ++
    backupFlags) args
  let (existing, newer) ← existingIn g ["no-clobber", "interactive"]
  if g.has "no-clobber" then
    fault "warning: behavior of -n is non-portable and may change in future; use --update=none instead"
  let backup ← backupIn g
  let (sources, last, within) ← sourcesAndTarget g
  let recursive := g.has "recursive" || g.has "R" || g.has "archive"
  let follows := g.lastOf? ["no-dereference", "dereference", "d", "archive", "H"]
  let keepLinks := match follows with
    | some "dereference" | some "H" => false
    | some _ => true
    | none => recursive
  let w : Wish := {
    recursive, keepLinks, force := g.has "force"
    existing, newer, backup
    keepModes := g.has "p" || g.has "archive" || g.has "preserve"
    verbose := g.has "verbose", links := g.has "link", symbolic := g.has "symbolic-link" }
  if g.has "parents" && !within then
    misused 1 "with --parents, the destination must be a directory".toList
  forEach sources fun source => do
    if g.has "parents" then
      let path := inside last (source.dropWhile (· = '/'))
      let way := (ways (Paths.directoryPart (source.dropWhile (· = '/')))).filter (· != ['.'])
      for part in way do
        let directory := inside last part
        if !isDirectory (← get) directory then
          let status ← attempt (about "cannot make directory" directory) fun p =>
            p.files.makeNode (p.pathOf directory) Node.emptyDirectory
          if status = 0 && w.verbose then
            putLine (part ++ " -> ".toList ++ directory)
      copy w 64 source path
    else copy w 64 source (goal within source last)

/-! ## Moving -/

def mv (_ : Launcher) (args : List Octets) : Run Nat := do
  let g ← given ([.plain 'f' "force", .plain 'i' "interactive", .plain 'n' "no-clobber",
    .plain 'v' "verbose", .plain 'T' "no-target-directory", .valued 't' "target-directory",
    .plain 'u' "u", .long "update" .attached] ++ backupFlags) args
  let (existing, newer) ← existingIn g ["no-clobber", "interactive", "force"]
  let backup ← backupIn g
  let (sources, last, within) ← sourcesAndTarget g
  forEach sources fun source => do
    let path := goal within source last
    let p ← get
    match named p source with
    | .error e =>
      faultAt (about "cannot stat" source) e
      return 1
    | .ok node =>
      let old? := (named p path).toOption
      let isDirectory := p.files.isDirectoryNode node
      if old? == some node then
        faultWith (arrow source "and".toList path ++ " are the same file".toList)
        return 1
      else if newer && !isDirectory && old?.any (fun old =>
          match p.files.node? node, p.files.node? old with
          | some a, some b => decide (a.modified ≤ b.modified)
          | _, _ => false) then return 0
      else if old?.isSome && existing = .kept then
        if !g.has "no-clobber" then return 0
        faultWith ("not replacing ".toList ++ Quote.always path)
        return 1
      else
        if old?.isSome && existing = .asked then
          if !(← agreed (about "overwrite" path)) then return 1
        let kept ← if old?.isSome then keepOld backup path else pure []
        let p ← get
        match p.files.rename (p.pathOf source) (p.pathOf path) with
        | .ok files =>
          set { p with files }
          if g.has "verbose" then
            putLine ("renamed ".toList ++ arrow source ['-', '>'] path ++ kept)
          return 0
        | .error e =>
          let oldIsDirectory := old?.any p.files.isDirectoryNode
          if isDirectory && old?.isSome && !oldIsDirectory then
            faultWith (about "cannot overwrite non-directory" path ++
              about " with directory" source)
          else if !isDirectory && oldIsDirectory then
            faultWith (about "cannot overwrite directory" path ++ " with non-directory".toList)
          else if e = .invalidArgument && isDirectory then
            faultWith (about "cannot move" source ++ about " to a subdirectory of itself," path)
          else if e = .notEmpty then faultAt (about "cannot overwrite" path) e
          else faultAt (about "cannot move" source ++ about " to" path) e
          return 1

/-! ## Links -/

def ln (_ : Launcher) (args : List Octets) : Run Nat := do
  let g ← given [.plain 's' "symbolic", .plain 'f' "force", .plain 'n' "no-dereference",
    .plain 'v' "verbose", .plain 'T' "no-target-directory", .valued 't' "target-directory",
    .plain 'r' "relative", .plain 'P' "physical", .plain 'L' "logical",
    .plain 'i' "interactive"] args
  let symbolic := g.has "symbolic"
  let p ← get
  let lastPath := g.operands.getLast?.getD []
  let (sources, last, within) ← match g.last? "target-directory", g.operands with
    | _, [] => misused 1 "missing file operand".toList
    | some directory, sources => pure (sources, directory, true)
    | none, [source] => pure ([source], ['.'], true)
    | none, sources =>
      if g.has "no-target-directory" || (isLink p lastPath && g.has "no-dereference") then
        pure (sources.dropLast, lastPath, false)
      else if isDirectory p lastPath then pure (sources.dropLast, lastPath, true)
      else if sources.length = 2 then pure (sources.dropLast, lastPath, false)
      else do
        faultAt ("target ".toList ++ Quote.always lastPath)
          (if (target p lastPath).toOption.isSome then .notADirectory else .noSuchFile)
        throw (.exit 1)
  forEach sources fun source => do
    let path := if within && last = ['.'] && g.operands.length = 1 then
        inside ['.'] (Paths.lastPart source) else goal within source last
    let p ← get
    let original? := named p source
    match original?, symbolic with
    | .error e, false =>
      faultAt (about "failed to access" source) e
      return 1
    | _, _ =>
      let original := original?.toOption
      if !symbolic && original.any p.files.isDirectoryNode then
        faultWith (Quote.ifNeeded source ++ ": hard link not allowed for directory".toList)
        return 1
      let old? := (named p path).toOption
      let samePlace := match p.files.spot (p.pathOf source), p.files.spot (p.pathOf path) with
        | .ok a, .ok b => a.directory == b.directory && a.name == b.name
        | _, _ => false
      if g.has "force" && old?.isSome && old? == original && samePlace then
        faultWith (arrow source "and".toList path ++ " are the same file".toList)
        return 1
      if g.has "force" && old?.isSome then
        modify fun p => { p with files := ((p.files.unlink (p.pathOf path)).toOption).getD p.files }
      let text := if symbolic && g.has "relative" then
          match Paths.resolved p .nothing source,
            Paths.resolved p .nothing (Paths.directoryPart path) with
          | .ok a, .ok b => Paths.relative b a
          | _, _ => source
        else source
      let what := (if symbolic then about "failed to create symbolic link" path
        else about "failed to create hard link" path) ++
        (if symbolic || old?.isSome then [] else " => ".toList ++ Quote.always source)
      let status ← attempt what fun p =>
        if symbolic then
          if text.isEmpty then .error .noSuchFile
          else p.files.makeNode (p.pathOf path) (.link (Octets.text text))
        else p.files.addName (original.getD 0) (p.pathOf path)
      if status = 0 && g.has "verbose" then
        putLine (arrow path (if symbolic then ['-', '>'] else ['=', '>']) text)
      return status

def link (_ : Launcher) (args : List Octets) : Run Nat := do
  let g ← given [] args
  match g.operands with
  | [] => missingOperand 1
  | [a] => misused 1 ("missing operand after ".toList ++ Quote.text a)
  | [a, b] =>
    attempt (about "cannot create link" b ++ about " to" a) fun p => do
      p.files.addName (← named p a) (p.pathOf b)
  | _ :: _ :: extra :: _ => extraOperand 1 extra

/-! ## Permissions, times and sizes -/

def modeLetters (mode : Nat) : Octets :=
  let group (bits : Nat) (special : Bool) (letter : Char) : Octets :=
    [if bits &&& 4 != 0 then 'r' else '-', if bits &&& 2 != 0 then 'w' else '-',
      if special then (if bits &&& 1 != 0 then letter else letter.toUpper)
      else if bits &&& 1 != 0 then 'x' else '-']
  group (mode / 64) (mode &&& 0o4000 != 0) 's' ++ group (mode / 8 % 8) (mode &&& 0o2000 != 0) 's' ++
    group (mode % 8) (mode &&& 0o1000 != 0) 't'

/-- Change the permissions of what a path leads to, and of all that is in it if
that is asked for. -/
def changeMode (g : Given) (mode : Octets) : (fuel : Nat) → Octets → Run Nat
  | 0, _ => return 1
  | fuel + 1, path => do
    let p ← get
    match target p path with
    | .error e =>
      if !(g.has "silent" || g.has "quiet") then
        let dangling := (named p path).toOption.isSome && e = .noSuchFile
        if dangling then
          faultWith (about "cannot operate on dangling symlink" path)
        else faultAt (about "cannot access" path) e
      return 1
    | .ok node =>
      let before := ((p.files.node? node).map (·.mode)).getD 0
      let directory := p.files.isDirectoryNode node
      let after := (mode? directory p.mask mode before).getD before
      set { p with files := p.files.modify node ({ · with mode := after }) }
      if g.has "verbose" || (g.has "changes" && before != after) then
        let shown (m : Nat) : Octets := octal 4 m ++ " (".toList ++ modeLetters m ++ [')']
        putLine (if before = after then
          "mode of ".toList ++ Quote.always path ++ " retained as ".toList ++ shown after
          else "mode of ".toList ++ Quote.always path ++ " changed from ".toList ++ shown before ++
            " to ".toList ++ shown after)
      if directory && (g.has "recursive") then
        (namesIn p node).foldlM (fun status name => do
          let inner := inside path name
          if isLink (← get) inner then return status
          return max status (← changeMode g mode fuel inner)) 0
      else return 0

def chmod (_ : Launcher) (args : List Octets) : Run Nat := do
  -- An argument such as `-x` takes permissions away.
  let isMode (arg : Octets) : Bool :=
    arg.head? == some '-' && 1 < arg.length && (arg.drop 1).all fun c =>
      "rwxXstugoa,+=-01234567".toList.contains c
  let isMode (arg : Octets) : Bool := isMode arg && arg != "--".toList && !arg.contains 'R'
  let modes := args.filter isMode
  let g ← given [.plain 'R' "recursive", .plain 'v' "verbose", .plain 'c' "changes",
    .plain 'f' "silent", .plain 'f' "quiet", .long "reference" .value,
    .long "preserve-root" .nothing, .long "no-preserve-root" .nothing]
    (args.filter fun arg => !isMode arg)
  let p ← get
  let reference := (g.last? "reference").bind fun path =>
    ((target p path).toOption.bind p.files.node?).map fun n => Nat.toDigits 8 n.mode
  let (mode, files) := match reference, modes with
    | some mode, _ => (mode, g.operands)
    | none, [] => (g.operands.head?.getD [], g.operands.tail)
    | none, modes => (List.intercalate [','] modes, g.operands)
  if g.operands.isEmpty && modes.isEmpty then missingOperand 1
  if files.isEmpty then misused 1 ("missing operand after ".toList ++ Quote.text mode)
  if (mode? false p.mask mode 0).isNone then
    misused 1 ("invalid mode: ".toList ++ Quote.text mode)
  forEach files (changeMode g mode 64)

/-- Make files, or note that they were changed. -/
def touch (_ : Launcher) (args : List Octets) : Run Nat := do
  let g ← given [.plain 'a' "a", .plain 'm' "m", .plain 'c' "no-create", .valued 'd' "date",
    .valued 't' "t", .valued 'r' "reference", .plain 'f' "f", .plain 'h' "no-dereference",
    .long "time" .value] args
  let p ← get
  let time ← match g.last? "reference", g.last? "date", g.last? "t" with
    | some file, _, _ =>
      match target p file with
      | .ok node => pure (((p.files.node? node).map (·.modified)).getD 0)
      | .error e => do
        faultAt (about "failed to get attributes of" file) e
        throw (.exit 1)
    | none, some text, _ =>
      match TimePhrase.time? p.files.now (zoneOf p).ahead text with
      | some n => pure n.toNat
      | none => refuse 1 ("invalid date format ".toList ++ Quote.text text)
    | none, none, some text =>
      match Calendar.stamp? (Calendar.moment (p.files.now / Nat.pow 10 9 : Nat)).year text with
      | some n => pure ((n - (zoneOf p).ahead) * Nat.pow 10 9).toNat
      | none => refuse 1 ("invalid date format ".toList ++ Quote.text text)
    | none, none, none => pure p.files.now
  if g.operands.isEmpty then misused 1 "missing file operand".toList
  forEach g.operands fun path => do
    let p ← get
    let onlyRead := g.has "a" && !g.has "m"
    match target p path with
    | .ok node =>
      if !onlyRead then
        set { p with files := p.files.modify node ({ · with modified := time }) }
      return 0
    | .error e =>
      if g.has "no-create" && e = .noSuchFile then return 0
      match ← openSink (p.pathOf path) false true false with
      | .ok _ =>
        modify fun q => { q with
          files := ((q.files.stamp (q.pathOf path) time).toOption).getD q.files }
        return 0
      | .error e =>
        faultAt (about "cannot touch" path) e
        return 1

/-- Cut files, or fill them up with zeros. -/
def truncate (_ : Launcher) (args : List Octets) : Run Nat := do
  let g ← given [.plain 'c' "no-create", .plain 'o' "io-blocks", .valued 'r' "reference",
    .valued 's' "size"] args
  if !g.has "size" && !g.has "reference" then
    misused 1 "you must specify either '--size' or '--reference'".toList
  let p ← get
  let lengthOf (p : State) (path : Octets) : Nat :=
    match (target p path).toOption.bind p.files.content? with
    | some (.file bytes) => bytes.length
    | _ => 0
  let text := (g.last? "size").getD ['+', '0']
  let sign := (text.head?.filter fun c => "+-<>/%".toList.contains c)
  let digits := if sign.isSome then text.drop 1 else text
  let n ← match sized? digits with
    | some n => pure n
    | none => refuse 1 ("Invalid number: ".toList ++ Quote.text text)
  if g.operands.isEmpty then misused 1 "missing file operand".toList
  let base := (g.last? "reference").map (lengthOf p)
  forEach g.operands fun path => do
    let p ← get
    if g.has "no-create" && (target p path).toOption.isNone then return 0
    match ← openSink (p.pathOf path) false false true with
    | .error e =>
      faultAt (about "cannot open" path ++ " for writing".toList) e
      return 1
    | .ok _ =>
      modify fun p =>
        match target p path with
        | .ok node =>
          let size := base.getD (lengthOf p path)
          let wanted := match sign with
            | some '+' => size + n
            | some '-' => size - n
            | some '<' => min size n
            | some '>' => max size n
            | some '/' => size / max n 1 * n
            | some _ => (size + n - 1) / max n 1 * n
            | none => if g.has "size" then n else size
          match p.files.content? node with
          | some (.file bytes) =>
            let kept := bytes.take wanted ++ List.replicate (wanted - bytes.length) 0
            { p with files := p.files.replace node (.file kept) }
          | _ => p
        | .error _ => p
      return 0

/-- Copy files and set their permissions, or make directories. -/
def install (_ : Launcher) (args : List Octets) : Run Nat := do
  let g ← given [.plain 'd' "directory", .plain 'D' "D", .valued 'm' "mode",
    .plain 'v' "verbose", .plain 'T' "no-target-directory", .valued 't' "target-directory",
    .valued 'o' "owner", .valued 'g' "group", .plain 'p' "preserve-timestamps", .plain 'c' "c",
    .plain 'C' "compare", .plain 's' "strip"] args
  let mode ← match g.last? "mode" with
    | none => pure 0o755
    | some text =>
      match mode? (g.has "directory") 0 text 0 with
      | some mode => pure mode
      | none => refuse 1 ("invalid mode ".toList ++ Quote.text text)
  if g.has "directory" then
    if g.operands.isEmpty then misused 1 "missing file operand".toList
    forEach g.operands fun path => do
      let status ← makeWay (saying g "creating directory") mode 0o755 path
      modify fun p => { p with
        files := ((p.files.setMode (p.pathOf path) mode).toOption).getD p.files }
      return status
  else
    if g.has "D" then
      match g.last? "target-directory", g.operands.getLast? with
      | some directory, _ => discard (makeWay (saying g "creating directory") 0o755 0o755 directory)
      | none, some last =>
        if 1 < g.operands.length then
          discard (makeWay (saying g "creating directory") 0o755 0o755 (Paths.directoryPart last))
      | none, none => pure ()
    let (sources, last, within) ← sourcesAndTarget g
    let w : Wish := {
      recursive := false, force := false, existing := .replaced, backup := none
      newer := false, keepLinks := false
      keepModes := false, verbose := g.has "verbose", links := false, symbolic := false }
    forEach sources fun source => do
      let path := goal within source last
      modify fun p => { p with files := ((p.files.unlink (p.pathOf path)).toOption).getD p.files }
      if isDirectory (← get) source then
        faultWith ("omitting directory ".toList ++ Quote.always source)
        return 1
      let status ← copy w 8 source path
      modify fun p => { p with
        files := ((p.files.setMode (p.pathOf path) mode).toOption).getD p.files }
      return status

/-- Have all octets reach their volumes. -/
def sync (_ : Launcher) (_ : List Octets) : Run Nat := pure 0

end BoardRig.Toolbox.Files
