import JobShell.Job.Registry
import JobShell.Launch.Child

/-! # The reaper

The reaper is a thread beside the one that evaluates lines. It waits for notices: when a child has changed, it
collects all children that have ended and forgets their jobs; when the keyboard interrupts the shell, it
starts a new line on the standard error. It is over if it cannot do that. -/

namespace JobShell.Reaper

/-- Answers one notice, and says whether there may be more. -/
def answer : Notice → Prog Bool
  | .childChanged => do
    let _ ← Registry.reap
    return true
  | .interrupt => do
    match ← Prog.perform (.write Child.standardError (Text.encode ['\n'])) with
    | .ok _ => return true
    | .error e => return e = .badDescriptor
  | .closed => return false

/-- Answers notices until there are no more. -/
def run : Prog Unit :=
  Prog.repeated (fun _ => do
    let more ← answer (← Prog.perform .awaitNotice)
    return if more then .inl () else .inr ()) ()

end JobShell.Reaper
