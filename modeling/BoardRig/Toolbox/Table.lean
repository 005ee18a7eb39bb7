/-
The programs that come with the machine, by name.

A program that writes looks at its end whether all could be written, and has a
status of its own for that.
-/
import BoardRig.Toolbox.Blocks
import BoardRig.Toolbox.Columns
import BoardRig.Toolbox.Comparison
import BoardRig.Toolbox.Digest
import BoardRig.Toolbox.Dump
import BoardRig.Toolbox.Edit.Editor
import BoardRig.Toolbox.Expression
import BoardRig.Toolbox.Files
import BoardRig.Toolbox.Find
import BoardRig.Toolbox.Grep
import BoardRig.Toolbox.Launching
import BoardRig.Toolbox.Listing
import BoardRig.Toolbox.Machine
import BoardRig.Toolbox.Order
import BoardRig.Toolbox.Paths
import BoardRig.Toolbox.Reading
import BoardRig.Toolbox.Records.Interpreter
import BoardRig.Toolbox.Sets
import BoardRig.Toolbox.Writing

namespace BoardRig.Toolbox

open Shell

/-- The programs that write, with the status for what cannot be written. -/
def writers : List (String × Nat × Tool) := [
  ("arch", 1, Machine.arch), ("base64", 1, Dump.base64), ("basename", 1, Paths.basename),
  ("cat", 1, Reading.cat), ("chmod", 1, Files.chmod), ("cksum", 1, Digest.cksum),
  ("cmp", 2, Comparison.cmp), ("comm", 1, Order.comm), ("cp", 1, Files.cp),
  ("cut", 1, Columns.cut), ("date", 1, Machine.date), ("dd", 1, Blocks.dd),
  ("diff", 2, Comparison.diff), ("dirname", 1, Paths.dirname), ("echo", 1, Writing.echo),
  ("egrep", 2, Grep.egrep), ("expand", 1, Columns.expand), ("expr", 3, Expression.expr),
  ("fgrep", 2, Grep.fgrep), ("fold", 1, Columns.fold), ("grep", 2, Grep.grep),
  ("groups", 1, Machine.groups), ("head", 1, Reading.head), ("hostname", 1, Machine.hostname),
  ("id", 1, Machine.identity), ("install", 1, Files.install), ("join", 1, Order.join),
  ("link", 1, Files.link), ("ln", 1, Files.ln), ("ls", 2, Listing.ls),
  ("md5sum", 1, Digest.program Digest.five), ("mkdir", 1, Files.mkdir),
  ("mktemp", 1, Paths.mktemp), ("mv", 1, Files.mv), ("nl", 1, Reading.nl),
  ("nproc", 1, Machine.nproc), ("od", 1, Dump.od), ("paste", 1, Columns.paste),
  ("printenv", 2, Launching.printenv), ("printf", 1, Writing.printf), ("pwd", 1, Paths.pwd),
  ("readlink", 1, Paths.readlink), ("realpath", 1, Paths.realpath), ("rev", 1, Reading.rev),
  ("rm", 1, Files.rm), ("rmdir", 1, Files.rmdir), ("seq", 1, Writing.seq),
  ("sha1sum", 1, Digest.program Digest.four), ("sha256sum", 1, Digest.program Digest.eight),
  ("sort", 2, Order.sort), ("split", 1, Blocks.split), ("stat", 1, Listing.stat),
  ("tac", 1, Reading.tac), ("tail", 1, Reading.tail), ("tee", 1, Reading.tee),
  ("touch", 1, Files.touch), ("tr", 1, Sets.tr), ("truncate", 1, Files.truncate),
  ("tty", 3, Machine.tty), ("uname", 1, Machine.uname), ("unexpand", 1, Columns.unexpand),
  ("uniq", 1, Order.uniq), ("unlink", 1, Files.unlink), ("wc", 1, Reading.wc),
  ("whoami", 1, Machine.whoami)]

/-- The programs that see to what they write on their own, or write nothing. -/
def others : List (String × Tool) := [
  ("[", Expression.bracket), ("awk", Records.awk), ("env", Launching.env),
  ("false", fun _ _ => pure 1), ("find", Find.find), ("mawk", Records.awk),
  ("nice", Launching.nice), ("nohup", Launching.nohup), ("sed", Edit.sed),
  ("setsid", Launching.setsid), ("sleep", Launching.sleep), ("stdbuf", Launching.stdbuf),
  ("sync", Files.sync), ("test", Expression.test), ("timeout", Launching.timeout),
  ("true", fun _ _ => pure 0), ("which", Launching.which), ("xargs", Launching.xargs),
  ("yes", Writing.yes)]

def table : List (String × Tool) :=
  others ++ writers.map fun (name, status, tool) =>
    (name, fun launch args => checked status (tool launch args))

end BoardRig.Toolbox
