import JobShell.Script.Program
import JobShell.Utility.Blocks
import JobShell.Utility.Columns
import JobShell.Utility.Concatenate
import JobShell.Utility.Copies
import JobShell.Utility.Count
import JobShell.Utility.Dump
import JobShell.Utility.Excerpt
import JobShell.Utility.Expression
import JobShell.Utility.Files
import JobShell.Utility.Join
import JobShell.Utility.Listing
import JobShell.Utility.Order
import JobShell.Utility.Process
import JobShell.Utility.Replace
import JobShell.Utility.Sequence

/-! # The programs of a machine

The programs that a machine finds in its system directory, by their names. -/

namespace JobShell.Utility

/-- The programs with their names. -/
def table : List (String × Utility) :=
  [("[", bracket), ("basename", basename), ("cat", cat), ("chmod", chmod), ("comm", comm), ("cp", cp),
   ("cut", cut), ("dash", sh), ("dd", dd), ("dirname", dirname), ("echo", echo), ("env", env),
   ("expand", expand), ("expr", expr), ("false", fail), ("fold", fold), ("head", head), ("join", join),
   ("link", link), ("ln", ln), ("ls", ls), ("mkdir", mkdir), ("mkfifo", mkfifo), ("mv", mv), ("nice", nice),
   ("nl", nl), ("nohup", nohup), ("od", od), ("paste", paste), ("printenv", printenv), ("printf", printf),
   ("prlimit", prlimit),
   ("pwd", pwd), ("readlink", readlink), ("realpath", realpath), ("rm", rm), ("rmdir", rmdir), ("seq", seq),
   ("sh", sh), ("sleep", sleep), ("sort", sort), ("split", split), ("sync", sync), ("tac", tac),
   ("tail", tail), ("tee", tee), ("test", test), ("timeout", timeout), ("touch", touch), ("tr", tr),
   ("true", succeed), ("truncate", truncate), ("tty", tty), ("uniq", uniq), ("unlink", unlink), ("wc", wc),
   ("yes", yes)]

/-- The program with a name. -/
def find? (name : Bytes) : Option Utility :=
  (table.find? fun r => ascii r.1 == name).map (·.2)

/-- The whole life of a process that has become a program. -/
def main (u : Utility) (argv : List Bytes) : Prog Empty := do
  let code ← u argv
  Prog.perform (.exit code)

end JobShell.Utility
