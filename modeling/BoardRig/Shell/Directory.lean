/-
The working directory of a shell, and the permissions of new files.
-/
import BoardRig.FileSystem.Difference
import BoardRig.Shell.Variable

namespace BoardRig.Shell.State

/-- An absolute path without dots, as a walk of names has it. -/
def walked (directory : String) (path : String) : String :=
  let steps := (Text.split '/' (Path.join directory path).toList).foldl (fun trail part =>
    if part = [] || part = ['.'] then trail
    else if part = ['.', '.'] then trail.dropLast
    else trail ++ [part]) []
  "/" ++ String.intercalate "/" (steps.map String.ofList)

/-- The path of the working directory without links. -/
def physicalDirectory (p : State) : String :=
  ((p.files.find p.directory).toOption.bind p.files.path?).getD p.directory

/-- The directories to look for another one in. -/
def candidates (p : State) (target : Octets) : List (Octets × Bool) :=
  let beginsWithDots := target = ['.'] || target = ['.', '.'] || ['.', '/'].isPrefixOf target ||
    ['.', '.', '/'].isPrefixOf target
  if target.head? == some '/' || beginsWithDots then [(target, false)]
  else
    let path := (p.value? "CDPATH").getD []
    let inPath := if path.isEmpty then []
      else (Text.split ':' path).map fun d =>
        if d.isEmpty then (target, false) else (d ++ '/' :: target, true)
    inPath ++ [(target, false)]

def changeDirectory (args : List Octets) : Run Nat := do
  let (found, args) ← splitOptions "LP" args
  let physical := (found.getLast?.map (·.1)) == some 'P'
  let p ← get
  let back := args.head? == some ['-']
  let target := if back then (p.value? "OLDPWD").getD []
    else (args.head?.or (p.value? "HOME")).getD []
  let target' := if target.isEmpty then ['.'] else target
  match (p.candidates target').find? fun c => p.files.isDirectory (p.pathOf c.1) with
  | none => failWith ("can't cd to ".toList ++ target)
  | some (path, shown) =>
    let path := Octets.text path
    let directory := if physical then
        ((p.files.find (Path.join p.directory path)).toOption.bind p.files.path?).getD p.directory
      else walked p.directory path
    if !p.files.isDirectory directory then failWith ("can't cd to ".toList ++ target)
    setVariable "OLDPWD" (Octets.ofString p.directory)
    setVariable "PWD" (Octets.ofString directory)
    modify fun p => { (p.expose "OLDPWD").expose "PWD" with directory }
    if back || shown then putLine (Octets.ofString directory)
    return 0

def tellDirectory (args : List Octets) : Run Nat := do
  let (found, _) ← splitOptions "LP" args
  let p ← get
  let physical := (found.getLast?.map (·.1)) == some 'P'
  putLine (Octets.ofString (if physical then p.physicalDirectory else p.directory))
  return 0

/-! ## Permissions -/

/-- A number in base eight with at least so many digits. -/
def octal (width n : Nat) : Octets := Octets.padLeft width '0' (Nat.toDigits 8 n)

/-- Permissions by letters, for one of the three kinds of users. -/
def permissionLetters (bits : Nat) : Octets :=
  (if bits &&& 4 != 0 then ['r'] else []) ++ (if bits &&& 2 != 0 then ['w'] else []) ++
    (if bits &&& 1 != 0 then ['x'] else [])

/-- The kinds of users that letters name, as the bits of their permissions. -/
def usersOf (letters : Octets) : Nat :=
  let one : Char → Nat
    | 'u' => 0o4700
    | 'g' => 0o2070
    | 'o' => 0o1007
    | _ => 0o7777
  if letters.isEmpty then 0o7777 else letters.foldl (fun n c => n ||| one c) 0

/-- The permissions that a letter names, for all users. -/
def permissionOf (mode : Nat) (directory : Bool) : Char → Option Nat
  | 'r' => some 0o444
  | 'w' => some 0o222
  | 'x' => some 0o111
  | 'X' => some (if directory || mode &&& 0o111 != 0 then 0o111 else 0)
  | 's' => some 0o6000
  | 't' => some 0o1000
  | 'u' => some ((mode / 64 % 8) * 0o111)
  | 'g' => some ((mode / 8 % 8) * 0o111)
  | 'o' => some ((mode % 8) * 0o111)
  | _ => none

/-- Change permissions as signs and letters behind the users say; what is
named by itself for all users may be limited by a mask. -/
def changedBy (directory : Bool) (users limit : Nat) : (fuel : Nat) → Octets → Nat → Option Nat
  | 0, _, _ => none
  | _ + 1, [], mode => some mode
  | fuel + 1, sign :: rest, mode =>
    let letters := rest.takeWhile fun c => !(['+', '-', '='].contains c)
    let bits? := letters.foldl (fun bits c => do
      return (← bits) ||| (← permissionOf mode directory c)) (some 0)
    match bits? with
    | none => none
    | some bits =>
      let bits := bits &&& users &&& limit
      let kept := 0o7777 ^^^ (users &&& 0o7777 &&& (if directory then 0o1777 else 0o7777))
      let changed? := match sign with
        | '+' => some (mode ||| bits)
        | '-' => some (mode &&& (0o7777 ^^^ bits))
        | '=' => some ((mode &&& kept) ||| bits)
        | _ => none
      match changed? with
      | some mode => changedBy directory users limit fuel (rest.drop letters.length) mode
      | none => none

/-- Permissions after changes that are written with letters, with commas
between them. -/
def symbolicMode? (directory : Bool) (mask : Nat) (cs : Octets) (mode : Nat) : Option Nat :=
  (Text.split ',' cs).foldl (fun before clause =>
    before.bind fun mode =>
      let who := clause.takeWhile fun c => ['u', 'g', 'o', 'a'].contains c
      let rest := clause.drop who.length
      let limit := if who.isEmpty then 0o7777 ^^^ mask else 0o7777
      if rest.isEmpty then none
      else changedBy directory (usersOf who) limit (rest.length + 1) rest mode) (some mode)

/-- Permissions in base eight, or changes to permissions. -/
def mode? (directory : Bool) (mask : Nat) (cs : Octets) (mode : Nat) : Option Nat :=
  if cs.all Escape.isOctal && !cs.isEmpty then
    let n := Decimal.Number.digitsValue 8 cs
    if n ≤ 0o7777 then some n else none
  else symbolicMode? directory mask cs mode

/-- Write the permissions that new files do not get, or set them. -/
def changeMask (args : List Octets) : Run Nat := do
  let (found, args) ← splitOptions "S" args
  let p ← get
  match args with
  | [] =>
    if found.isEmpty then putLine (octal 4 p.mask)
    else
      let given := 0o777 ^^^ (p.mask &&& 0o777)
      putLine ("u=".toList ++ permissionLetters (given / 64) ++ ",g=".toList ++
        permissionLetters (given / 8 % 8) ++ ",o=".toList ++ permissionLetters (given % 8))
    return 0
  | arg :: _ =>
    if arg.head?.any Char.isDigit then
      if !arg.all Escape.isOctal then failWith ("Illegal number: ".toList ++ arg)
      set { p with mask := Decimal.Number.digitsValue 8 arg % 0o1000 }
      return 0
    else
      match symbolicMode? false 0 arg (0o777 ^^^ p.mask) with
      | some mode =>
        set { p with mask := 0o777 ^^^ (mode &&& 0o777) }
        return 0
      | none => failWith ("Illegal mode: ".toList ++ arg)

end BoardRig.Shell.State
