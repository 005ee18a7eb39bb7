/-
What is in directories, and what is known about files.
-/
import BoardRig.Toolbox.Files
import BoardRig.Toolbox.Order

namespace BoardRig.Toolbox.Listing

open Shell State

/-! ## About nodes -/

def kindLetter (n : Node) : Char :=
  match n.content with
  | .directory _ => 'd'
  | .link _ => 'l'
  | .device _ => 'c'
  | _ => '-'

def kindName (n : Node) : Octets :=
  match n.content with
  | .directory _ => "directory".toList
  | .link _ => "symbolic link".toList
  | .device _ => "character special file".toList
  | .file [] => "regular empty file".toList
  | _ => "regular file".toList

def size (n : Node) : Nat :=
  match n.content with
  | .file bytes => bytes.length
  | .program _ => 65536
  | .directory _ => 4096
  | .link target => target.utf8ByteSize
  | .device _ => 0

/-- How many blocks of 1024 octets a node takes. -/
def blocks (n : Node) : Nat :=
  match n.content with
  | .link _ | .device _ => 0
  | _ => (size n + 4095) / 4096 * 4

def names (fs : FileSystem) (id : Nat) : Nat :=
  match fs.content? id with
  | some (.directory entries) =>
    2 + entries.countP fun e => fs.isDirectoryNode e.2
  | _ => fs.nodes.foldl (fun n (_, node) =>
    match node.content with
    | .directory entries => n + entries.countP fun e => e.2 == id
    | _ => n) 0

def secondsOf (time : Nat) : Int × Nat := (((time / Nat.pow 10 9 : Nat) : Int), time % Nat.pow 10 9)

/-- A size in the largest fitting unit. -/
def human (n : Nat) : Octets :=
  if n < 1024 then Octets.ofNat n
  else
    let rec go : List Char → Nat → Nat → Octets
      | [], scale, _ => Octets.ofNat (n / scale)
      | [letter], scale, _ => Octets.ofNat ((n + scale - 1) / scale) ++ [letter]
      | letter :: letters, scale, next =>
        let tenths := (n * 10 + scale - 1) / scale
        if tenths < 100 then
          Octets.ofNat (tenths / 10) ++ '.' :: Octets.ofNat (tenths % 10) ++ [letter]
        else
          let whole := (n + scale - 1) / scale
          if whole < 1024 then Octets.ofNat whole ++ [letter] else go letters next (next * 1024)
    go ['K', 'M', 'G', 'T', 'P'] 1024 (1024 * 1024)

/-! ## Lists -/

/-- What a list is asked for. -/
structure Wish where
  long : Bool
  all : Bool
  almostAll : Bool
  recursive : Bool
  asFiles : Bool
  classify : Bool
  slashes : Bool
  inodes : Bool
  blocks : Bool
  human : Bool
  numeric : Bool
  owner : Bool
  group : Bool
  byTime : Bool
  bySize : Bool
  unsorted : Bool
  byExtension : Bool
  byVersion : Bool
  directoriesFirst : Bool
  reversed : Bool
  commas : Bool
  columns : Bool
  rows : Bool
  width : Nat
  quoting : Option String
  follows : Bool
  style : Octets

/-- A thing in a list. -/
structure Item where
  name : Octets
  path : Octets
  node : Nat
  about : Node

/-- The sign behind the name of a thing. -/
def signOf (w : Wish) (n : Node) : Octets :=
  match n.content with
  | .directory _ => if w.classify || w.slashes then ['/'] else []
  | .link _ => if w.classify && !w.long then ['@'] else []
  | .device _ => []
  | _ => if w.classify && n.isExecutable then ['*'] else []

def nameOf (w : Wish) (cs : Octets) : Octets :=
  let signed (also : Char → Bool) : Octets := cs.flatMap fun c =>
    if c = '\\' || also c then ['\\', c] else if Quote.isWritable c then [c] else Quote.signFor c
  match w.quoting with
  | some "c" => '"' :: signed (· = '"') ++ ['"']
  | some "escape" => signed (· = ' ')
  | some "shell" | some "shell-escape" => Quote.ifNeeded cs
  | some "shell-always" | some "shell-escape-always" => Quote.always cs
  | some "locale" | some "clocale" => Quote.text cs
  | _ => cs

def extension (cs : Octets) : Octets :=
  let tail := cs.reverse.takeWhile (· != '.')
  if tail.length < cs.length then tail.reverse else []

/-- Things in the order that is asked for. -/
def ordered (w : Wish) (items : List Item) : List Item :=
  if w.unsorted then items
  else
    let byName (a b : Item) : Ordering := compare a.name b.name
    let order (a b : Item) : Ordering :=
      if w.byTime then (compare b.about.modified a.about.modified).then (byName a b)
      else if w.bySize then (compare (size b.about) (size a.about)).then (byName a b)
      else if w.byExtension then (compare (extension a.name) (extension b.name)).then (byName a b)
      else if w.byVersion then (Order.compareFileNames a.name b.name).then (byName a b)
      else byName a b
    let rank (i : Item) : Nat :=
      if w.directoriesFirst && !(i.about.content matches .directory _) then 1 else 0
    items.mergeSort fun a b =>
      ((compare (rank a) (rank b)).then (if w.reversed then order b a else order a b)) != .gt

def timeOf (w : Wish) (p : State) (time : Nat) : Octets :=
  let now := p.files.now
  let (seconds, nanos) := secondsOf time
  let recent := time ≤ now && now < time + 15778476 * Nat.pow 10 9
  let format := if w.style = "full-iso".toList then "%F %T.%N %z"
    else if w.style = "long-iso".toList then "%F %R"
    else if w.style = "iso".toList then if recent then "%m-%d %R" else "%F "
    else if w.style.head? == some '+' then String.ofList (w.style.drop 1)
    else if recent then "%b %e %H:%M" else "%b %e  %Y"
  Calendar.formatIn (Files.zoneOf p) seconds nanos format.toList

def lines (w : Wish) (p : State) (items : List Item) : List Octets :=
  let sizeText (n : Node) : Octets :=
    match n.content with
    | .device _ => "1, 3".toList
    | _ => if w.human then human (size n) else Octets.ofNat (size n)
  let widest (texts : List Octets) : Nat := texts.foldl (fun n cs => max n cs.length) 0
  let countWidth := widest (items.map fun i => Octets.ofNat (names p.files i.node))
  let sizeWidth := widest (items.map fun i => sizeText i.about)
  let nodeWidth := widest (items.map fun i => Octets.ofNat i.node)
  let blockText (n : Node) : Octets :=
    if w.human then human (blocks n * 1024) else Octets.ofNat (blocks n)
  let blockWidth := widest (items.map fun i => blockText i.about)
  items.map fun i =>
    let before := (if w.inodes then Octets.padLeft nodeWidth ' ' (Octets.ofNat i.node) ++ [' ']
      else []) ++
      (if w.blocks then Octets.padLeft blockWidth ' ' (blockText i.about) ++ [' '] else [])
    let name := nameOf w i.name
    if w.long then
      let who : Octets := if w.numeric then ['0'] else "root".toList
      before ++ kindLetter i.about :: Files.modeLetters i.about.mode ++ ' ' ::
        Octets.padLeft countWidth ' ' (Octets.ofNat (names p.files i.node)) ++ ' ' ::
        (if w.owner then who ++ [' '] else []) ++ (if w.group then who ++ [' '] else []) ++
        Octets.padLeft sizeWidth ' ' (sizeText i.about) ++ ' ' ::
        timeOf w p i.about.modified ++ ' ' :: name ++
        (match i.about.content with
          | .link target => " -> ".toList ++ Octets.ofString target
          | _ => signOf w i.about)
    else before ++ name ++ signOf w i.about

/-- Blanks from one column to another: tabs where they reach far enough. -/
def gap : (fuel : Nat) → (first last : Nat) → Octets
  | 0, _, _ => []
  | fuel + 1, first, last =>
    if last ≤ first then []
    else if (first + 1) / 8 < last / 8 then '\t' :: gap fuel (first + 8 - first % 8) last
    else ' ' :: gap fuel (first + 1) last

/-- The widths of columns that hold texts beside each other; all but the last
one are followed by two blanks. -/
def columnWidths (downward : Bool) (texts : List Octets) (columns : Nat) : List Nat :=
  let height := (texts.length + columns - 1) / columns
  let column (n : Nat) : Nat := if downward then n / height else n % columns
  (List.range columns).map fun c =>
    texts.zipIdx.foldl (fun width (text, n) =>
      if column n = c then max width (text.length + if c + 1 = columns then 0 else 2) else width) 0

/-- Texts in as many columns as a line has room for. -/
def inColumns (downward : Bool) (width : Nat) (texts : List Octets) : List Octets :=
  let most := if width = 0 then texts.length else min texts.length (max 1 ((width + 2) / 3))
  let fits (columns : Nat) : Bool :=
    width = 0 || columns ≤ 1 || (columnWidths downward texts columns).foldl (· + ·) 0 < width
  let columns := ((List.range most).reverse.map (· + 1)).find? fits |>.getD 1
  let widths := columnWidths downward texts columns
  let height := (texts.length + columns - 1) / max columns 1
  (List.range height).map fun row =>
    let cells := (List.range columns).filterMap fun c =>
      texts[if downward then c * height + row else row * columns + c]?
    let starts := cells.zipIdx.map fun (_, c) => (widths.take c).foldl (· + ·) 0
    ((cells.zip starts).foldl (fun (line, place) (cell, start) =>
      (line ++ gap 1000 place start ++ cell, start + cell.length)) ([], 0)).1

def writeItems (w : Wish) (items : List Item) : Run Unit := do
  let p ← get
  let shown := lines w p items
  if w.commas && !w.long then
    let rec wrap : (column : Nat) → List Octets → Octets
      | _, [] => []
      | column, [name] =>
        (if column = 0 then [] else if w.width = 0 || column + 2 + name.length < w.width then [',', ' ']
          else [',', '\n']) ++ name
      | column, name :: rest =>
        if column = 0 then name ++ wrap name.length rest
        else if w.width = 0 || column + 2 + name.length < w.width then
          [',', ' '] ++ name ++ wrap (column + 2 + name.length) rest
        else [',', '\n'] ++ name ++ wrap name.length rest
    if !items.isEmpty then putLine (wrap 0 shown)
  else if w.columns || w.rows then emitLines (inColumns w.columns w.width shown)
  else emitLines shown

def itemsIn (w : Wish) (p : State) (path : Octets) (node : Nat) : List Item :=
  let item (name : Octets) (id : Nat) : Option Item :=
    let full := Files.inside path name
    let id := if w.follows then (Files.target p full).toOption.getD id else id
    (p.files.node? id).map fun about => ⟨name, full, id, about⟩
  let own := (p.files.entries node).filterMap fun entry =>
    let name := Octets.ofString entry.1
    if name.head? == some '.' && !(w.all || w.almostAll) then none else item name entry.2
  let dots := if w.all then
      (item ['.'] node).toList ++
        (item ['.', '.'] ((Files.target p (Files.inside path "..".toList)).toOption.getD node)).toList
    else []
  dots ++ own

/-- List a directory, and those in it if that is asked for. -/
def listDirectory (w : Wish) : (fuel : Nat) → (titled isFirst : Bool) → Octets → Nat → Run Unit
  | 0, _, _, _, _ => return
  | fuel + 1, titled, isFirst, path, node => do
    let p ← get
    let items := ordered w (itemsIn w p path node)
    if titled then put ((if isFirst then [] else ['\n']) ++ nameOf w path ++ ":\n".toList)
    if w.long || w.blocks then
      let total := items.foldl (fun n i => n + blocks i.about) 0
      putLine ("total ".toList ++ if w.human then human (total * 1024) else Octets.ofNat total)
    writeItems w items
    if w.recursive then
      for i in items do
        if p.files.isDirectoryNode i.node && i.name != ['.'] && i.name != ['.', '.'] then
          listDirectory w fuel true false i.path i.node

def ls (_ : Launcher) (args : List Octets) : Run Nat := do
  let g ← givenWith [.plain 'l' "l", .plain 'a' "all", .plain 'A' "almost-all", .plain '1' "1",
    .plain 'R' "recursive", .plain 'd' "directory", ⟨some 'F', "classify", .nothing⟩,
    .plain 'p' "p", .plain 'i' "inode", .plain 's' "size", .plain 'h' "human-readable",
    .plain 'n' "numeric-uid-gid", .plain 'g' "g", .plain 'o' "o", .plain 'G' "no-group",
    .plain 't' "t", .plain 'S' "S", .plain 'U' "U", .plain 'X' "X", .plain 'r' "reverse",
    .plain 'm' "m", .plain 'C' "C", .plain 'x' "x", .plain 'Q' "quote-name", .plain 'q' "q",
    .plain 'b' "escape", .plain 'N' "literal", .plain 'L' "dereference", .plain 'H' "H",
    .long "color" .attached, .plain 'c' "c", .plain 'u' "u", .plain 'v' "v", .plain 'k' "k",
    .long "full-time" .nothing, .long "time-style" .value, .valued 'w' "width",
    .long "group-directories-first" .nothing, .plain 'f' "f", .plain 'B' "ignore-backups",
    .long "sort" .value, .long "format" .value, .long "file-type" .nothing, .plain 'Z' "context",
    .long "time" .value, .long "indicator-style" .value, .long "quoting-style" .value,
    .long "hide-control-chars" .nothing, .long "show-control-chars" .nothing,
    .long "si" .nothing, .long "author" .nothing, .valued 'I' "ignore", .long "hide" .value,
    .valued 'T' "tabsize", .long "dereference-command-line" .nothing,
    .long "hyperlink" .attached, .plain 'D' "dired", .long "zero" .nothing] true 2 args
  let choice (option : String) (groups : List (List String)) : Run (Option String) := do
    match g.last? option with
    | none | some [] => return none
    | some value => some <$> chosen 1 ("--" ++ option) groups value
  let sort ← choice "sort" [["none"], ["time"], ["size"], ["extension"], ["version"], ["width"]]
  let format ← choice "format" [["verbose", "long"], ["commas"], ["horizontal", "across"],
    ["vertical"], ["single-column"]]
  let time ← choice "time" [["atime", "access", "use"], ["ctime", "status"],
    ["mtime", "modification"], ["birth", "creation"]]
  let _ ← choice "color" [["always", "yes", "force"], ["never", "no", "none"],
    ["auto", "tty", "if-tty"]]
  let indicator ← choice "indicator-style" [["none"], ["slash"], ["file-type"], ["classify"]]
  let quoting ← choice "quoting-style" [["literal"], ["shell"], ["shell-always"],
    ["shell-escape"], ["shell-escape-always"], ["c"], ["c-maybe"], ["escape"], ["locale"],
    ["clocale"]]
  let long := g.has "l" || g.has "n" || g.has "numeric-uid-gid" || g.has "g" || g.has "o" ||
    g.has "full-time" || format == some "verbose"
  let sortedBy (name : String) : Bool := sort == some name
  let layout := match g.lastOf? ["l", "m", "1", "g", "o", "numeric-uid-gid", "C", "x",
      "full-time", "format"], format with
    | some "format", some "commas" => some "m"
    | some "format", some "horizontal" => some "x"
    | some "format", some "vertical" => some "C"
    | word, _ => word
  let w : Wish := {
    long := long && !(["m", "C", "x"].contains (layout.getD "l"))
    all := g.has "all" || g.has "f", almostAll := g.has "almost-all"
    recursive := g.has "recursive", asFiles := g.has "directory", classify := g.has "classify" || indicator == some "classify"
    slashes := g.has "p" || g.has "file-type" || indicator == some "slash" ||
      indicator == some "file-type"
    inodes := g.has "inode", blocks := g.has "size"
    human := g.has "human-readable", numeric := g.has "numeric-uid-gid"
    owner := !g.has "g", group := !g.has "o" && !g.has "no-group"
    byTime := g.has "t" || sortedBy "time" || (time.isSome && !long && sort.isNone)
    bySize := g.has "S" || sortedBy "size", unsorted := g.has "U" || g.has "f" || sortedBy "none"
    byExtension := g.has "X" || sortedBy "extension", reversed := g.has "reverse"
    byVersion := g.has "v" || sortedBy "version"
    directoriesFirst := g.has "group-directories-first"
    commas := layout == some "m", columns := layout == some "C", rows := layout == some "x"
    width := ((g.last? "width").bind Octets.nat?).getD 80
    quoting := g.lastOf? ["quote-name", "escape", "literal", "quoting-style"] |>.bind fun word =>
      if word = "quote-name" then some "c" else if word = "escape" then some word
      else if word = "literal" then none else quoting
    follows := g.has "dereference"
    style := if g.has "full-time" then "full-iso".toList else (g.last? "time-style").getD [] }
  let operands := if g.operands.isEmpty then [['.']] else g.operands
  let (items, status) ← operands.foldlM (fun ((items, status) : List Item × Nat) path => do
    let p ← get
    let stays := w.asFiles || (w.long && !w.follows && !g.has "H")
    let found := if stays && !w.asFiles && path.getLast? != some '/' then
        -- A link that leads to a directory stands for itself in a long list.
        Files.named p path
      else if w.asFiles then Files.named p path
      else match Files.target p path with
        | .ok node => .ok node
        | .error e => match w.follows, Files.named p path with
          | false, .ok node => .ok node
          | _, _ => .error e
    match found with
    | .ok node =>
      match p.files.node? node with
      | some about => return (items ++ [⟨path, path, node, about⟩], status)
      | none => return (items, 2)
    | .error e =>
      faultAt ("cannot access ".toList ++ Quote.always path) e
      return (items, 2)) ([], 0)
  let p ← get
  let isDirectory (i : Item) : Bool := !w.asFiles && p.files.isDirectoryNode i.node
  let files := ordered w (items.filter fun i => !isDirectory i)
  let directories := ordered w (items.filter isDirectory)
  writeItems w files
  let titled := 1 < operands.length || w.recursive
  for (i, n) in directories.zipIdx do
    listDirectory w 64 titled (n = 0 && files.isEmpty) i.path i.node
  return status

/-! ## One file -/

def fact (p : State) (path : Octets) (node : Nat) (n : Node) (letter : Char) : Option Octets :=
  let (seconds, nanos) := secondsOf n.modified
  match letter with
  | 'n' => some path
  | 'N' => some (Quote.always path ++ match n.content with
      | .link target => " -> ".toList ++ Quote.always (Octets.ofString target)
      | _ => [])
  | 's' => some (Octets.ofNat (size n))
  | 'a' => some (Nat.toDigits 8 n.mode)
  | 'A' => some (kindLetter n :: Files.modeLetters n.mode)
  | 'f' =>
    let kind := match n.content with
      | .directory _ => 0o040000
      | .link _ => 0o120000
      | .device _ => 0o020000
      | _ => 0o100000
    some (Nat.toDigits 16 (kind + n.mode))
  | 'F' => some (kindName n)
  | 'h' => some (Octets.ofNat (names p.files node))
  | 'i' => some (Octets.ofNat node)
  | 'u' | 'g' => some ['0']
  | 'U' | 'G' => some "root".toList
  | 'b' => some (Octets.ofNat (blocks n * 2))
  | 'B' => some "512".toList
  | 'o' => some "4096".toList
  | 'd' => some "66".toList
  | 'D' => some "42".toList
  | 't' | 'T' => some ['0']
  | 'm' => some ['/']
  | 'X' | 'Y' | 'Z' | 'W' => some (Octets.ofInt seconds)
  | 'x' | 'y' | 'z' | 'w' => some (Calendar.formatIn (Files.zoneOf p) seconds nanos "%F %T.%N %z".toList)
  | _ => none

/-- A format filled in. Escapes are written out if that is asked for. -/
def filled (p : State) (path : Octets) (node : Nat) (n : Node) (escapes : Bool) :
    (fuel : Nat) → Octets → Octets
  | 0, _ => []
  | _ + 1, [] => []
  | fuel + 1, '%' :: '%' :: rest => '%' :: filled p path node n escapes fuel rest
  | fuel + 1, '%' :: rest =>
    let marks := rest.takeWhile fun c => "#-+.0123456789 ".toList.contains c
    match rest.drop marks.length with
    | letter :: more =>
      let flags := marks.takeWhile fun c => "-0#".toList.contains c
      let (width, _) := Octets.leadingNat (marks.drop flags.length)
      let cs := (fact p path node n letter).getD ['?']
      let shown := if flags.contains '-' then Octets.padRight width ' ' cs
        else Octets.padLeft width (if flags.contains '0' then '0' else ' ') cs
      shown ++ filled p path node n escapes fuel more
    | [] => '%' :: rest
  | fuel + 1, '\\' :: rest =>
    if escapes then
      match rest with
      | [] => ['\\']
      | c :: more =>
        if (Escape.control? c).isSome || Escape.isOctal c then
          let (d, rest) := Escape.escaped rest
          d :: filled p path node n escapes fuel rest
        else c :: filled p path node n escapes fuel more
    else '\\' :: filled p path node n escapes fuel rest
  | fuel + 1, c :: rest => c :: filled p path node n escapes fuel rest

/-- What is written about a file if nothing else is asked for. -/
def usualFacts : Octets := String.toList (String.join [
  "  File: %N\n  Size: %-10s\tBlocks: %-10b IO Block: %-6o %F\n",
  "Device: 0,66\tInode: %-11i Links: %h\n",
  "Access: (%04a/%10.10A)  Uid: (%5u/%8U)   Gid: (%5g/%8G)\n",
  "Access: %x\nModify: %y\nChange: %z\n Birth: -"])

/-- Tell what is known about files. -/
def stat (_ : Launcher) (args : List Octets) : Run Nat := do
  let g ← given [.valued 'c' "format", .long "printf" .value, .plain 'L' "dereference",
    .plain 'f' "file-system", .plain 't' "terse", .long "cached" .value] args
  if g.operands.isEmpty then missingOperand 1
  forEach g.operands fun path => do
    let p ← get
    let found := if g.has "dereference" then Files.target p path else Files.named p path
    let found := if path = ['-'] then
        match p.openFileOf? 0 with
        | some (_, f) =>
          match f.target with
          | .node node => .ok node
          | .pipe _ => found
        | none => found
      else found
    match found.toOption.bind fun node => (p.files.node? node).map fun n => (node, n) with
    | some (node, n) =>
      match g.last? "printf", g.last? "format" with
      | some text, _ => emit (filled p path node n true (text.length + 1) text)
      | none, some text => putLine (filled p path node n false (text.length + 1) text)
      | none, none => putLine (filled p path node n false (usualFacts.length + 1) usualFacts)
      return 0
    | none =>
      faultAt ("cannot statx ".toList ++ Quote.always path) (match found with
        | .error e => e
        | .ok _ => .noSuchFile)
      return 1

end BoardRig.Toolbox.Listing
