import JobShell.Failure
import JobShell.Kernel.Prog
import JobShell.Launch.Child

/-! # Speaking to the user

The shell writes to its standard output and its standard error. A message that cannot be written is a panic, which ends
the shell; only a stream that is closed takes everything. -/

namespace JobShell

/-- Why an activity breaks off. -/
inductive Stop
  | failure (f : Failure)
  /-- A message could not be written. -/
  | panic
deriving DecidableEq, Repr

/-- What the shell does beside its lines. It can break off. -/
abbrev Stoppable := ExceptT Stop Prog

namespace Output

/-- Writes a message to the standard output. -/
def say (text : Text) : Stoppable Unit :=
  ExceptT.mk do
    match ← Prog.perform (.print text) with
    | .ok _ => return .ok ()
    | .error _ => return .error .panic

/-- Writes a message to the standard error. It counts as one write, in however many parts it goes out. -/
def complain (text : Text) : Stoppable Unit :=
  ExceptT.mk do
    match ← Prog.perform (.write Child.standardError text.encode) with
    | .ok _ => return .ok ()
    | .error e => return if e = .badDescriptor then .ok () else .error .panic

/-- Says what has failed, and why. -/
def report (f : Failure) : Stoppable Unit :=
  complain ("pish: ".toList ++ f.message ++ ['\n'])

/-- Writes out what the standard output has kept back. -/
def flush : Stoppable Unit :=
  ExceptT.mk do
    match ← Prog.perform .flush with
    | .ok _ => return .ok ()
    | .error e => return .error (.failure (.system e))

end Output

end JobShell
