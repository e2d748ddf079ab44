import JobShell.Job.Wait
import JobShell.Launch.Child

/-! # Spawning the stages

One process is forked for each stage, in the order of the stages, and each is joined to the next by a pipe.
The shell holds an end of a pipe no longer than it has to: of the pipes of a launch it never holds more than
three ends. If a pipe or a process cannot be made, the processes that are there already are killed and
collected. -/

namespace JobShell.Launch

/-- Forks the child of one stage. The shell puts the child into its group as the child does itself, so that
the group is there whichever of the two comes first. -/
def start (i : Invocation) (w : Wiring) : Prog (Except Errno Pid) := do
  match ← Prog.perform .fork with
  | .error e => return .error e
  | .ok .child => (Child.run i w).never
  | .ok (.parent child) =>
    if let some group := w.group then
      let _ ← Prog.perform (.setGroup child (if group = 0 then child else group))
    return .ok child

/-- Closes a descriptor; there is nothing to be done if this fails. -/
def drop (d : Descriptor) : Prog Unit := do
  let _ ← Prog.perform (.close d)

/-- Closes a descriptor if there is one. -/
def dropHeld : Option Descriptor → Prog Unit
  | none => return
  | some d => drop d

/-- The group that the stages after the first join. -/
def groupAfter (group : Option Pid) (first : Pid) : Option Pid :=
  group.map fun g => if g = 0 then first else g

/-- Forks the stages one by one; `held` is the read end of the pipe from the stage before. The answer holds
the processes that were made, and what went wrong if not all of them were. -/
def spawnStages (group : Option Pid) (held : Option Descriptor) :
    List Invocation → Prog (List Pid × Option Failure)
  | [] => return ([], none)
  | [last] => do
    match ← start last ⟨held, none, none, group⟩ with
    | .error e =>
      dropHeld held
      return ([], some (.fork e))
    | .ok pid =>
      dropHeld held
      return ([pid], none)
  | stage :: rest => do
    match ← Prog.perform .pipe with
    | .error e =>
      dropHeld held
      return ([], some (.pipe e))
    | .ok (reader, writer) =>
      match ← start stage ⟨held, some writer, some reader, group⟩ with
      | .error e =>
        drop reader
        drop writer
        dropHeld held
        return ([], some (.fork e))
      | .ok pid =>
        dropHeld held
        drop writer
        let (pids, failure) ← spawnStages (groupAfter group pid) (some reader) rest
        return (pid :: pids, failure)

/-- Kills processes and collects them. -/
def abandon : List Pid → Prog Unit
  | [] => return
  | pid :: pids => do
    let _ ← Prog.perform (.kill pid Signal.kill.number)
    let _ ← waitFor pid
    abandon pids

/-- Forks all stages, in a process group of their own if `grouped`, and answers their processes. -/
def spawn (grouped : Bool) (stages : List Invocation) : Prog (Except Failure (List Pid)) := do
  let (pids, failure) ← spawnStages (if grouped then some 0 else none) none stages
  match failure with
  | none => return .ok pids
  | some f =>
    abandon pids
    return .error f

end JobShell.Launch
