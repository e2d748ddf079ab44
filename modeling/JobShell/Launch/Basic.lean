import JobShell.Job.Registry
import JobShell.Launch.Spawn
import JobShell.Pipeline.Basic

/-! # Launching a pipeline

A pipeline in the foreground is waited for, stage by stage. A pipeline in the background becomes a job. The
job table is held from the first fork until the job is in it, so that a job whose process ends at once is not
missed. -/

namespace JobShell

/-- What a launch leaves behind. -/
inductive Launched
  /-- One entry for each stage; an end is unknown if the reaper has collected the process. -/
  | foreground (statuses : List (Option Status))
  | background (job : Job)
deriving DecidableEq, Repr

/-- The end of the last stage, if it is known. -/
def Launched.last? : Launched → Option Status
  | foreground statuses => statuses.getLast?.join
  | background _ => none

namespace Launch

/-- Launches stages in the background and adds the job to the table. -/
def background (text : Text) (stages : List Invocation) : Prog (Except Failure Launched) := do
  let table ← Prog.perform .acquireJobs
  match ← spawn true stages with
  | .ok (first :: rest) =>
    let (job, table) := table.add ((first :: rest).getLast (by simp)) first text
    Prog.perform (.releaseJobs table)
    return .ok (.background job)
  | .ok [] =>
    Prog.perform (.releaseJobs table)
    return .error .nothingSpawned
  | .error f =>
    Prog.perform (.releaseJobs table)
    return .error f

/-- Launches stages in the foreground and waits for them. -/
def foreground (stages : List Invocation) : Prog (Except Failure Launched) := do
  match ← spawn false stages with
  | .error f => return .error f
  | .ok pids =>
    match ← waitAll pids with
    | .error f => return .error f
    | .ok statuses => return .ok (.foreground statuses)

end Launch

/-- Launches a pipeline. -/
def launch (p : Pipeline) : Prog (Except Failure Launched) :=
  if p.stages.isEmpty then return .ok (.foreground [])
  else
    match p.stages.mapM Invocation.ofStage with
    | .error f => return .error f
    | .ok stages => if p.background then Launch.background p.text stages else Launch.foreground stages

end JobShell
