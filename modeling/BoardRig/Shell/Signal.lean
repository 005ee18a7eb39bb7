/-
Signals: their names, what they do, and what is said when one has ended a
program.
-/
import BoardRig.Shell.Octets

namespace BoardRig.Shell.Signal

/-- The names of the signals from the first one on, and what is said about a
program that one of them has ended. -/
def table : List (String × String) := [
  ("HUP", "Hangup"), ("INT", "Interrupt"), ("QUIT", "Quit"), ("ILL", "Illegal instruction"),
  ("TRAP", "Trace/breakpoint trap"), ("ABRT", "Aborted"), ("BUS", "Bus error"),
  ("FPE", "Floating point exception"), ("KILL", "Killed"), ("USR1", "User defined signal 1"),
  ("SEGV", "Segmentation fault"), ("USR2", "User defined signal 2"), ("PIPE", "Broken pipe"),
  ("ALRM", "Alarm clock"), ("TERM", "Terminated"), ("16", "Stack fault"),
  ("CHLD", "Child exited"), ("CONT", "Continued"), ("STOP", "Stopped (signal)"),
  ("TSTP", "Stopped"), ("TTIN", "Stopped (tty input)"), ("TTOU", "Stopped (tty output)"),
  ("URG", "Urgent I/O condition"), ("XCPU", "CPU time limit exceeded"),
  ("XFSZ", "File size limit exceeded"), ("VTALRM", "Virtual timer expired"),
  ("PROF", "Profiling timer expired"), ("WINCH", "Window changed"), ("IO", "I/O possible"),
  ("PWR", "Power failure"), ("SYS", "Bad system call")]

def greatest : Nat := 64

/-- The number of the first signal without a meaning of its own. -/
def firstFree : Nat := 34

def name (n : Nat) : String :=
  if n = 0 then "EXIT"
  else
    match table[n - 1]? with
    | some (name, _) => name
    | none =>
      if n = firstFree then "RTMIN"
      else if n = greatest then "RTMAX"
      else if n < firstFree then Nat.repr n
      else if n ≤ 49 then "RTMIN+" ++ Nat.repr (n - firstFree)
      else "RTMAX-" ++ Nat.repr (greatest - n)

def named? (text : String) : Option Nat :=
  (List.range (greatest + 1)).find? fun n => name n == text

/-- The number that a numeral or a name stands for. The name may begin with
`SIG` where that is allowed, and letters of both cases are the same. -/
def number? (withMark : Bool) (cs : Octets) : Option Nat :=
  match Octets.nat? cs with
  | some n => if n ≤ greatest then some n else none
  | none =>
    let text := cs.map Char.toUpper
    let text := if withMark && "SIG".toList.isPrefixOf text then text.drop 3 else text
    named? (String.ofList text)

/-- Whether a signal ends a program that has no plan for it. -/
def ends (n : Nat) : Bool :=
  n != 0 && !(["CHLD", "CONT", "STOP", "TSTP", "TTIN", "TTOU", "URG", "WINCH"].contains (name n))

/-- What is said when a signal has ended a program; an interruption and a
broken pipe go without saying. -/
def obituary (n : Nat) : String :=
  if n = 2 || n = 13 then ""
  else
    match table[n - 1]? with
    | some (_, text) => text
    | none => if n < firstFree then "Unknown signal " ++ Nat.repr n
      else "Real-time signal " ++ Nat.repr (n - firstFree)

end BoardRig.Shell.Signal
