/-
What ends a command, and the code that the program leaves with.

The cause is an error of an operation, a misuse of the command line, a faulty
configuration, or a plain remark. Whoever passes it on may say what was being
done. So a failure is a chain: the remarks, the last one first, then the cause,
and then what lies behind it. The code is that of the first link that is more
than a remark.
-/
import BoardRig.Error

namespace BoardRig

/-- What went wrong in a command. -/
inductive Cause where
  | operation (error : Error)
  | usage (text : String)
  | config (text : String)
  | remark (text : String)
deriving DecidableEq, Repr

namespace Cause

def text : Cause → String
  | .operation e => e.message
  | .usage text | .config text | .remark text => text

/-- What lies behind the cause, of which there is no more than the texts. -/
def behind : Cause → List Cause
  | .operation e => e.causes.map .remark
  | _ => []

/-- The texts of the cause, and of what lies behind it. -/
def texts (c : Cause) : List String :=
  (c :: c.behind).map text

/-- The code that the cause decides on: 2 for misuse, 3 for configuration, and
the code of an operation's error. A remark decides on none. -/
def exitCode? : Cause → Option Nat
  | .operation e => some e.exitCode
  | .usage _ => some 2
  | .config _ => some 3
  | .remark _ => none

end Cause

/-- A cause with the remarks of those who passed it on, the first one first. -/
structure Failure where
  cause : Cause
  contexts : List String := []
deriving DecidableEq, Repr

namespace Failure

def context (f : Failure) (remark : String) : Failure :=
  { f with contexts := f.contexts ++ [remark] }

/-- The remarks, the last one first, then the cause and what lies behind it. -/
def chain (f : Failure) : List Cause :=
  f.contexts.reverse.map .remark ++ f.cause :: f.cause.behind

def text (f : Failure) : String :=
  String.intercalate ": " (f.chain.map Cause.text)

/-- The code that the program leaves with: that of the first link of the chain
which decides on one, and 1 if none does. -/
def exitCode (f : Failure) : Nat :=
  (f.chain.findSome? Cause.exitCode?).getD 1

end Failure

/-- An outcome as the outcome of a command. -/
def withoutContext {α : Type} : Except Error α → Except Failure α
  | .ok a => .ok a
  | .error e => .error ⟨.operation e, []⟩

end BoardRig
