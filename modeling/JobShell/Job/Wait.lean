import JobShell.Job.Status
import JobShell.Kernel.Prog

/-! # Waiting for processes

A child that has ended stays until somebody collects it. Two threads may collect the shell's children: the one
that runs lines waits for the children of its line, and the reaper collects whatever has ended. A child that
the other thread has collected is not an error, its end is then unknown.

A child may be ended by a signal without a name. Waiting for it collects it and fails, and the failure does
not say which child it was. -/

namespace JobShell

/-- A report whose signal has a name; a signal without one makes it an invalid argument. -/
def Report.named : Report → Except Errno Change
  | .alive => .ok .alive
  | .exited pid code => .ok (.exited pid code)
  | .signaled pid number core =>
    match Signal.ofNumber? number with
    | some signal => .ok (.signaled pid signal core)
    | none => .error .invalid
  | .stopped pid number =>
    match Signal.ofNumber? number with
    | some signal => .ok (.stopped pid signal)
    | none => .error .invalid
  | .continued pid => .ok (.continued pid)

/-- Waits for a change of a child. -/
def awaitChange (pid : Pid) (block : Bool) : Prog (Except Errno Change) := do
  match ← Prog.perform (.wait pid block) with
  | .ok report => return report.named
  | .error e => return .error e

/-- Waits for a process to end. Without an answer, the process has been collected by the other thread. -/
def waitFor (pid : Pid) : Prog (Except Failure (Option Status)) :=
  Prog.repeated (fun _ => do
    match ← awaitChange pid true with
    | .ok change =>
      match change.status? with
      | some status => return .inr (.ok (some status))
      | none => return .inl ()
    | .error e =>
      if e = .interrupted then return .inl ()
      else if e = .noChild then return .inr (.ok none)
      else return .inr (.error (.wait pid e))) ()

/-- Waits for processes, one after the other; the first failure ends the waiting. -/
def waitAll : List Pid → Prog (Except Failure (List (Option Status)))
  | [] => return .ok []
  | pid :: pids => do
    match ← waitFor pid with
    | .error f => return .error f
    | .ok status =>
      match ← waitAll pids with
      | .error f => return .error f
      | .ok statuses => return .ok (status :: statuses)

end JobShell
