/-
How a script goes on, and what ends it.

A mistake is complained about with the line where it was made, and ends the
shell unless the command that made it may fail. A loop catches `break` and
`continue`, a function catches `return`.
-/
import BoardRig.Shell.State

namespace BoardRig.Shell

/-- What a failure means, without its number. -/
def meaning (e : IoError) : String :=
  match Text.cutAt? '(' e.text.toList with
  | some (before, _) => String.ofList (Text.trimEnd before)
  | none => e.text

/-- What a failure means where a program is to be run. -/
def programMeaning (e : IoError) : String :=
  if e = .noSuchFile || e = .notADirectory then "not found" else meaning e

def sourceMeaning (e : IoError) : String :=
  if e = .noSuchFile || e = .notADirectory then "No such file" else meaning e

def sinkMeaning (e : IoError) : String :=
  if e = .noSuchFile || e = .notADirectory then "Directory nonexistent" else meaning e

namespace State

/-- Complain in the name of the script, with the line of the command at hand. -/
def protestWith (cs : Octets) : Run Unit := do
  let p ← get
  let speaker := p.speaker.elim [] (· ++ [':', ' '])
  complainWith (Octets.ofString p.name ++ ": ".toList ++ Octets.ofNat p.line ++ ": ".toList ++
    speaker ++ cs)

/-- Complain in the name of the script with a text. -/
def protest (text : String) : Run Unit :=
  protestWith (Octets.ofString text)

def failWith {α : Type} (cs : Octets) : Run α := do
  protestWith cs
  throw (.failed 2)

/-- Complain about a mistake with a text. -/
def fail {α : Type} (text : String) : Run α :=
  failWith (Octets.ofString text)

/-- Complain about octets and what is wrong with them. -/
def failAbout {α : Type} (cs : Octets) (text : String) : Run α :=
  failWith (cs ++ Octets.ofString text)

def finish (status : Nat) : Run Unit :=
  modify fun p => { p with status }

/-- Run the body of a loop; tells whether the loop goes on. -/
def iteration (body : Run Unit) : Run Bool := fun p =>
  match body p with
  | (.ok (), p) => (.ok true, p)
  | (.error (.continue (n + 2)), p) => (.error (.continue (n + 1)), p)
  | (.error (.continue _), p) => (.ok true, { p with status := 0 })
  | (.error (.break (n + 2)), p) => (.error (.break (n + 1)), p)
  | (.error (.break _), p) => (.ok false, { p with status := 0 })
  | (.error stop, p) => (.error stop, p)

def inLoop (act : Run Unit) : Run Unit := fun p =>
  let (r, q) := act { p with loops := p.loops + 1 }
  (r, { q with loops := p.loops })

def speaking {α : Type} (speaker : Octets) (act : Run α) : Run α := fun p =>
  let (r, q) := act { p with speaker := some speaker }
  (r, { q with speaker := p.speaker })

/-! ## Numbers -/

/-- The number that an argument denotes, which is not negative. -/
def numberIn (arg : Octets) : Run Nat := do
  let digits := arg.dropWhile fun c => c == ' ' || ('\t' ≤ c && c ≤ '\r')
  let (negative, digits) := match digits with
    | '-' :: rest => (true, rest)
    | '+' :: rest => (false, rest)
    | rest => (false, rest)
  let (n, rest) := Octets.leadingNat digits
  let isBad := digits.head?.all (!·.isDigit) || (negative && n != 0) || Nat.pow 2 31 ≤ n ||
    rest.any fun c => !(c == ' ' || ('\t' ≤ c && c ≤ '\r'))
  if isBad then failWith ("Illegal number: ".toList ++ arg) else return n

/-- The number that the first argument denotes, if there is one. -/
def numberOr (default : Nat) (args : List Octets) : Run Nat :=
  match args with
  | [] => pure default
  | arg :: _ => numberIn arg

/-! ## Options -/

/-- The options in front of arguments, given the letters that are known; a
colon behind a letter asks for a value. -/
def optionsOf (known : Octets) : (fuel : Nat) → List Octets →
    Run (List (Char × Octets) × List Octets)
  | 0, args => pure ([], args)
  | _ + 1, [] => pure ([], [])
  | _ + 1, ['-', '-'] :: rest => pure ([], rest)
  | fuel + 1, ('-' :: c :: letters) :: rest => do
    if !known.contains c || c = ':' then fail ("Illegal option -" ++ String.singleton c)
    if (known.dropWhile (· != c)).drop 1 |>.head? |> (· == some ':') then
      match letters, rest with
      | [], value :: rest => do
        let (found, args) ← optionsOf known fuel rest
        return ((c, value) :: found, args)
      | [], [] => fail ("No arg for -" ++ String.singleton c ++ " option")
      | value, rest => do
        let (found, args) ← optionsOf known fuel rest
        return ((c, value) :: found, args)
    else do
      let (found, args) ← optionsOf known fuel
        (if letters.isEmpty then rest else ('-' :: letters) :: rest)
      return ((c, []) :: found, args)
  | _ + 1, args => pure ([], args)

/-- The options in front of arguments, and the arguments behind them. -/
def splitOptions (known : String) (args : List Octets) : Run (List (Char × Octets) × List Octets) :=
  optionsOf known.toList (args.foldl (fun n arg => n + arg.length + 1) 1) args

def withoutOptions (args : List Octets) : Run (List Octets) := do
  return (← splitOptions "" args).2

end State

end BoardRig.Shell
