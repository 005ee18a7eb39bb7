/-
Walking through directories.

At each path an expression is evaluated. It tests what is there and acts on
it; what is joined to a test that decides is not evaluated. Without an action
the paths of which the expression holds are written.
-/
import BoardRig.Regex.Matching
import BoardRig.Regex.Reader
import BoardRig.Shell.Directory
import BoardRig.Shell.Pattern
import BoardRig.Toolbox.Launching
import BoardRig.Toolbox.Listing

namespace BoardRig.Toolbox.Find

open Shell State

/-- How a number is compared with a value. -/
inductive Compared where
  | more (n : Nat)
  | less (n : Nat)
  | exactly (n : Nat)

def Compared.holds (c : Compared) (value : Nat) : Bool :=
  match c with
  | .more n => n < value
  | .less n => value < n
  | .exactly n => value = n

/-- An expression. -/
inductive Query where
  | always (value : Bool)
  | name (ignoreCase : Bool) (shape : Octets)
  | path (ignoreCase : Bool) (shape : Octets)
  | target (shape : Octets)
  | pattern (r : Regex)
  | kind (letters : Octets)
  | empty
  | size (unit : Nat) (n : Compared)
  | age (unit : Nat) (n : Compared)
  | newer (time : Nat)
  | mode (all any : Bool) (bits : Nat)
  | links (n : Compared)
  | runnable
  | write (ending : Octets)
  | format (text : Octets)
  | list
  | delete
  | prune
  | quit
  | run (directory : Bool) (command : List Octets)
  /-- Run once for many paths, under a number. -/
  | runAll (number : Nat) (command : List Octets)
  | negated (q : Query)
  | both (a b : Query)
  | either (a b : Query)
  | inOrder (a b : Query)

/-- Whether an expression acts, so that nothing is written by itself. -/
def Query.acts : Query → Bool
  | write _ | format _ | list | delete | run _ _ | runAll _ _ => true
  | quit => false
  | negated q => acts q
  | both a b | either a b | inOrder a b => acts a || acts b
  | _ => false

/-- Whether an expression removes files. -/
def Query.deletes : Query → Bool
  | delete => true
  | negated q => deletes q
  | both a b | either a b | inOrder a b => deletes a || deletes b
  | _ => false

/-- The commands that are run once for many paths. -/
def Query.batches : Query → List (Nat × List Octets)
  | runAll n command => [(n, command)]
  | negated q => batches q
  | both a b | either a b | inOrder a b => batches a ++ batches b
  | _ => []

/-! ## Reading -/

/-- What has been read of an expression. -/
structure Progress where
  rest : List Octets
  least : Nat := 0
  most : Option Nat := none
  depthFirst : Bool := false
  count : Nat := 0

abbrev Reading := StateT Progress (Except Octets)

def next? : Reading (Option Octets) := do
  let p ← get
  match p.rest with
  | w :: rest =>
    set { p with rest }
    return some w
  | [] => return none

def argument (word : Octets) : Reading Octets := do
  match ← next? with
  | some w => return w
  | none => throw ("missing argument to \x60".toList ++ word ++ ['\''])

def compared (word text : Octets) : Reading Compared := do
  let (sign, digits) := match text with
    | '+' :: rest => (some '+', rest)
    | '-' :: rest => (some '-', rest)
    | rest => (none, rest)
  match Octets.nat? digits with
  | some n => return match sign with
    | some '+' => .more n
    | some _ => .less n
    | none => .exactly n
  | none => throw ("invalid argument \x60".toList ++ text ++ "' to \x60".toList ++ word ++ ['\''])

/-- The words of a command up to its end, and whether it is run for many
paths. -/
def commandWords (word : Octets) : (fuel : Nat) → (before : List Octets) →
    Reading (List Octets × Bool)
  | 0, before => pure (before.reverse, false)
  | fuel + 1, before => do
    let w ← argument word
    if w = [';'] then return (before.reverse, false)
    else if w = ['+'] && before.head? == some "\x7b\x7d".toList then
      return (before.reverse.dropLast, true)
    else commandWords word fuel (w :: before)

mutual

/-- Expressions in order, of which the value of the last counts. -/
def sequence (p : State) : (fuel : Nat) → Reading Query
  | 0 => pure (.always true)
  | fuel + 1 => do
    let first ← disjunction p fuel
    match (← get).rest with
    | [','] :: rest =>
      modify fun q => { q with rest }
      return .inOrder first (← sequence p fuel)
    | _ => return first
termination_by structural fuel => fuel

def disjunction (p : State) : (fuel : Nat) → Reading Query
  | 0 => pure (.always true)
  | fuel + 1 => do
    let first ← conjunction p fuel
    match (← get).rest with
    | w :: rest =>
      if w = "-o".toList || w = "-or".toList then
        modify fun q => { q with rest }
        return .either first (← disjunction p fuel)
      else return first
    | [] => return first
termination_by structural fuel => fuel

/-- Expressions that all have to hold. -/
def conjunction (p : State) : (fuel : Nat) → Reading Query
  | 0 => pure (.always true)
  | fuel + 1 => do
    let first ← term p fuel
    match (← get).rest with
    | w :: rest =>
      if w = "-a".toList || w = "-and".toList then
        modify fun q => { q with rest }
        return .both first (← conjunction p fuel)
      else if w = "-o".toList || w = "-or".toList || w = [','] || w = [')'] then return first
      else return .both first (← conjunction p fuel)
    | [] => return first
termination_by structural fuel => fuel

/-- A test or an action, or an expression in parentheses. -/
def term (p : State) : (fuel : Nat) → Reading Query
  | 0 => pure (.always true)
  | fuel + 1 => do
    match ← next? with
    | none => return .always true
    | some w =>
      let age (unit : Nat) : Reading Query := do
        return .age unit (← compared w (← argument w))
      let size : Reading Query := do
        let text ← argument w
        let unit := match text.getLast? with
          | some 'c' => 1
          | some 'w' => 2
          | some 'k' => 1024
          | some 'M' => Nat.pow 1024 2
          | some 'G' => Nat.pow 1024 3
          | _ => 512
        let digits := if (text.getLast?.any Char.isDigit) then text else text.dropLast
        return .size unit (← compared w digits)
      match String.ofList w with
      | "(" => do
        let inner ← sequence p fuel
        match ← next? with
        | some [')'] => return inner
        | _ => throw ("invalid expression; I was expecting to find a ')' somewhere but did " ++
            "not see one.").toList
      | "!" | "-not" => return .negated (← term p fuel)
      | "-true" => return .always true
      | "-false" => return .always false
      | "-name" => return .name false (← argument w)
      | "-iname" => return .name true (← argument w)
      | "-path" | "-wholename" => return .path false (← argument w)
      | "-ipath" | "-iwholename" => return .path true (← argument w)
      | "-lname" => return .target (← argument w)
      | "-regex" | "-iregex" =>
        match Regex.read { ignoreCase := w = "-iregex".toList } (← argument w) with
        | .ok parsed => return .pattern parsed.expression
        | .error e => throw e.text.toList
      | "-type" | "-xtype" => do
        let letters ← argument w
        match letters.find? fun c => !"bcdpflsD,".toList.contains c with
        | some c => throw ("Unknown argument to -type: ".toList ++ [c])
        | none => return .kind letters
      | "-empty" => return .empty
      | "-size" => size
      | "-mmin" => age 60
      | "-mtime" => age 86400
      | "-amin" | "-cmin" => age 60
      | "-atime" | "-ctime" => age 86400
      | "-newer" => do
        let file ← argument w
        match (p.files.find (p.pathOf file)).toOption.bind p.files.node? with
        | some node => return .newer node.modified
        | none => throw (Quote.text file ++ ": No such file or directory".toList)
      | "-perm" => do
        let text ← argument w
        let (all, any, digits) := match text with
          | '-' :: rest => (true, false, rest)
          | '/' :: rest => (false, true, rest)
          | rest => (false, false, rest)
        match mode? false 0 digits 0 with
        | some bits => return .mode all any bits
        | none => throw ("invalid mode ".toList ++ Quote.text text)
      | "-links" => return .links (← compared w (← argument w))
      | "-executable" => return .runnable
      | "-readable" | "-writable" => return .always true
      | "-user" | "-group" | "-uid" | "-gid" => do
        let who ← argument w
        return .always (who = "root".toList || who = ['0'])
      | "-maxdepth" => do
        let text ← argument w
        match Octets.nat? text with
        | some n =>
          modify fun q => { q with most := some n }
          return .always true
        | none => throw ("Expected a positive decimal integer argument to -maxdepth, but got ".toList ++
            Quote.text text)
      | "-mindepth" => do
        let text ← argument w
        match Octets.nat? text with
        | some n =>
          modify fun q => { q with least := n }
          return .always true
        | none => throw ("Expected a positive decimal integer argument to -mindepth, but got ".toList ++
            Quote.text text)
      | "-depth" | "-d" => do
        modify fun q => { q with depthFirst := true }
        return .always true
      | "-xdev" | "-mount" | "-follow" | "-noleaf" | "-daystart" | "-ignore_readdir_race" =>
        return .always true
      | "-print" => return .write ['\n']
      | "-print0" => return .write ['\x00']
      | "-printf" => return .format (← argument w)
      | "-ls" => return .list
      | "-delete" => do
        modify fun q => { q with depthFirst := true }
        return .delete
      | "-prune" => return .prune
      | "-quit" => return .quit
      | "-exec" | "-ok" | "-execdir" | "-okdir" => do
        let (command, many) ← commandWords w (← get).rest.length []
        if many then
          let n := (← get).count
          modify fun q => { q with count := n + 1 }
          return .runAll n command
        else return .run (w = "-execdir".toList) command
      | _ =>
        if w.head? == some '-' && 1 < w.length then
          throw ("unknown predicate \x60".toList ++ w ++ ['\''])
        else throw ("paths must precede expression: \x60".toList ++ w ++ ['\''])
termination_by structural fuel => fuel

end

/-! ## Walking -/

/-- A path at which an expression is evaluated. -/
structure Visit where
  /-- The path that the walk began with. -/
  start : Octets
  path : Octets
  depth : Nat
  node : Nat
  about : Node

def Visit.name (v : Visit) : Octets := Paths.lastPart v.path

/-- What the walk has come to: whether what is below is left out, whether it
is over, the paths for commands that are run once, and the status. -/
structure Walk where
  pruned : Bool := false
  finished : Bool := false
  batches : List (Nat × Octets) := []
  status : Nat := 0

def folded (ignoreCase : Bool) (cs : Octets) : Octets :=
  if ignoreCase then cs.map Char.toLower else cs

def filled (p : State) (v : Visit) : (fuel : Nat) → Octets → Octets
  | 0, _ => []
  | _ + 1, [] => []
  | fuel + 1, '\\' :: rest =>
    match rest with
    | [] => ['\\']
    | c :: more =>
      if c = 'c' then []
      else if (Escape.control? c).isSome || Escape.isOctal c then
        let (d, rest) := Escape.escaped rest
        d :: filled p v fuel rest
      else '\\' :: c :: filled p v fuel more
  | fuel + 1, '%' :: '%' :: rest => '%' :: filled p v fuel rest
  | fuel + 1, '%' :: rest =>
    let marks := rest.takeWhile fun c => "-0123456789 +#.".toList.contains c
    match rest.drop marks.length with
    | [] => '%' :: rest
    | letter :: more =>
      let (seconds, nanos) := Listing.secondsOf v.about.modified
      let relative := (v.path.drop v.start.length).dropWhile (· == '/')
      let (cs, more) : Octets × Octets := match letter with
        | 'p' => (v.path, more)
        | 'f' => (if v.depth = 0 && v.name.isEmpty then v.path else v.name, more)
        | 'h' => (Paths.directoryPart v.path, more)
        | 'P' => (relative, more)
        | 'H' => (v.start, more)
        | 'd' => (Octets.ofNat v.depth, more)
        | 's' => (Octets.ofNat (Listing.size v.about), more)
        | 'b' => (Octets.ofNat (Listing.blocks v.about * 2), more)
        | 'k' => (Octets.ofNat (Listing.blocks v.about), more)
        | 'm' => (Nat.toDigits 8 v.about.mode, more)
        | 'M' => (Listing.kindLetter v.about :: Files.modeLetters v.about.mode, more)
        | 'y' | 'Y' => ([if Listing.kindLetter v.about = '-' then 'f' else Listing.kindLetter v.about], more)
        | 'l' => (match v.about.content with
          | .link target => Octets.ofString target
          | _ => [], more)
        | 'u' | 'g' => ("root".toList, more)
        | 'U' | 'G' => (['0'], more)
        | 'n' => (Octets.ofNat (Listing.names p.files v.node), more)
        | 'i' => (Octets.ofNat v.node, more)
        | 't' | 'a' | 'c' => (Calendar.formatIn (Files.zoneOf p) seconds nanos "%a %b %e %T.%N0 %Y".toList, more)
        | 'T' | 'A' | 'C' =>
          (match more with
            | '@' :: _ => Octets.ofInt seconds ++ ".0000000000".toList
            | k :: _ => Calendar.formatIn (Files.zoneOf p) seconds nanos ['%', k]
            | [] => [], more.drop 1)
        | c => (['%', c], more)
      let left := marks.head? == some '-'
      let (width, _) := Octets.leadingNat (marks.dropWhile fun c => c == '-' || c == '0')
      let cs := if left then Octets.padRight width ' ' cs else Octets.padLeft width ' ' cs
      cs ++ filled p v fuel more
  | fuel + 1, c :: rest => c :: filled p v fuel rest

def runFor (launch : Launcher) (command : List Octets) (path : Octets) : Run Nat := do
  let argv := command.map fun word =>
    Launching.replaced "\x7b\x7d".toList path (word.length + 1) word
  return (← child (Launching.become launch Quote.text argv)).status

def evaluate (launch : Launcher) (v : Visit) : Query → Walk → Run (Bool × Walk)
  | .always value, w => return (value, w)
  | .name ignoreCase pattern, w =>
    return (Pattern.fits (Pattern.glyphs false (folded ignoreCase pattern))
      (folded ignoreCase v.name), w)
  | .path ignoreCase pattern, w =>
    return (Pattern.fits (Pattern.glyphs false (folded ignoreCase pattern))
      (folded ignoreCase v.path), w)
  | .target pattern, w =>
    return (match v.about.content with
      | .link target => Pattern.fits (Pattern.glyphs false pattern) (Octets.ofString target)
      | _ => false, w)
  | .pattern r, w =>
    return (((Regex.subject r v.path).findAt? 0).any (·.finish = v.path.length), w)
  | .kind letters, w =>
    let letter := if Listing.kindLetter v.about = '-' then 'f' else Listing.kindLetter v.about
    return (letters.contains letter, w)
  | .empty, w =>
    return (match v.about.content with
      | .file bytes => bytes.isEmpty
      | .directory entries => entries.isEmpty
      | _ => false, w)
  | .size unit n, w => return (n.holds ((Listing.size v.about + unit - 1) / unit), w)
  | .age unit n, w => do
    let now := (← get).files.now
    return (n.holds ((now - v.about.modified) / (unit * Nat.pow 10 9)), w)
  | .newer time, w => return (time < v.about.modified, w)
  | .mode all any bits, w =>
    return (if all then v.about.mode &&& bits == bits
      else if any then bits == 0 || v.about.mode &&& bits != 0
      else v.about.mode == bits, w)
  | .links n, w => do return (n.holds (Listing.names (← get).files v.node), w)
  | .runnable, w => return (v.about.isExecutable || v.about.content matches .directory _, w)
  | .write ending, w => do
    put (v.path ++ ending)
    return (true, w)
  | .format text, w => do
    emit (filled (← get) v (text.length + 1) text)
    return (true, w)
  | .list, w => do
    let p ← get
    putLine (Octets.ofNat v.node ++ ' ' :: Listing.kindLetter v.about ::
      Files.modeLetters v.about.mode ++ ' ' :: Octets.ofNat (Listing.names p.files v.node) ++
      " root root ".toList ++ Octets.ofNat (Listing.size v.about) ++ ' ' :: v.path)
    return (true, w)
  | .delete, w => do
    if v.path = ['.'] then return (true, w)
    let p ← get
    let removed := if p.files.isDirectoryNode v.node then
        p.files.removeDirectory (p.pathOf v.path)
      else p.files.unlink (p.pathOf v.path)
    match removed with
    | .ok files =>
      set { p with files }
      return (true, w)
    | .error e =>
      faultAt ("cannot delete ".toList ++ Quote.text v.path) e
      return (false, { w with status := 1 })
  | .prune, w => return (true, { w with pruned := true })
  | .quit, w => return (true, { w with finished := true })
  | .run inDirectory command, w => do
    if inDirectory then
      let directory := Paths.directoryPart v.path
      let before := (← get).directory
      modify fun p => { p with directory := p.pathOf directory }
      let status ← runFor launch command ("./".toList ++ v.name)
      modify fun p => { p with directory := before }
      return (status = 0, w)
    else return ((← runFor launch command v.path) = 0, w)
  | .runAll n _, w => return (true, { w with batches := w.batches ++ [(n, v.path)] })
  | .negated q, w => do
    let (value, w) ← evaluate launch v q w
    return (!value, w)
  | .both a b, w => do
    let (value, w) ← evaluate launch v a w
    if value && !w.finished then evaluate launch v b w else return (value, w)
  | .either a b, w => do
    let (value, w) ← evaluate launch v a w
    if value || w.finished then return (value, w) else evaluate launch v b w
  | .inOrder a b, w => do
    let (value, w) ← evaluate launch v a w
    if w.finished then return (value, w) else evaluate launch v b w

def walk (launch : Launcher) (o : Progress) (q : Query) (follows : Bool) (start : Octets) :
    (fuel : Nat) → (path : Octets) → (depth : Nat) → Walk → Run Walk
  | 0, _, _, w => return w
  | fuel + 1, path, depth, w => do
    if w.finished then return w
    let p ← get
    let found := if follows then
        match Files.target p path with
        | .ok node => .ok node
        | .error _ => Files.named p path
      else Files.named p path
    match found.toOption.bind fun node => (p.files.node? node).map fun n => (node, n) with
    | none =>
      faultAt (Quote.text path) (match found with
        | .error e => e
        | .ok _ => .noSuchFile)
      return { w with status := 1 }
    | some (node, about) =>
      let v : Visit := ⟨start, path, depth, node, about⟩
      let visit (w : Walk) : Run Walk := do
        if depth < o.least || w.finished then return w
        stepOn
        return (← evaluate launch v q { w with pruned := false }).2
      let below (w : Walk) : Run Walk := do
        if o.most.any (· ≤ depth) then return w
        (Files.namesIn p node).foldlM (fun w name =>
          walk launch o q follows start fuel (Files.inside path name) (depth + 1) w) w
      if o.depthFirst then visit (← below w)
      else
        let w ← visit w
        if w.pruned && o.least ≤ depth then return { w with pruned := false } else below w

def find (launch : Launcher) (args : List Octets) : Run Nat := do
  let p ← get
  let links := args.takeWhile fun arg => ["-H".toList, "-L".toList, "-P".toList].contains arg
  let args := args.drop links.length
  let isStart (arg : Octets) : Bool :=
    !(arg.head? == some '-' && 1 < arg.length) && arg != ['('] && arg != ['!'] && arg != [')'] &&
      arg != [',']
  let starts := args.takeWhile isStart
  let words := args.drop starts.length
  let starts := if starts.isEmpty then [['.']] else starts
  match (sequence p (4 * words.length + 8)).run { rest := words } with
  | .error text => refuse 1 text
  | .ok (q, o) =>
    if !o.rest.isEmpty then
      refuse 1 "invalid expression; you have too many ')'".toList
    let q := if q.acts then q else .both q (.write ['\n'])
    let o := { o with depthFirst := o.depthFirst || q.deletes }
    let follows := links.getLast? == some "-L".toList
    let w ← starts.foldlM (fun w start => walk launch o q follows start 64 start 0 w) {}
    let status ← q.batches.foldlM (fun status (n, command) => do
      let paths := (w.batches.filter (·.1 == n)).map (·.2)
      if paths.isEmpty then return status
      let ending ← child (Launching.become launch Quote.text (command ++ paths))
      return if ending.status = 0 then status else 1) w.status
    return status

end BoardRig.Toolbox.Find
