import JobShell.Job.Wait

/-! # The shared job table

The job table belongs to all threads of the shell. A thread takes it, works on it and gives it back, and no
other thread sees what happens in between. -/

namespace JobShell.Registry

/-- Takes the table, changes it and gives it back. -/
def update {α : Type} (f : JobTable → α × JobTable) : Prog α := do
  let table ← Prog.perform .acquireJobs
  let (a, table) := f table
  Prog.perform (.releaseJobs table)
  return a

/-- Looks at the table. -/
def look {α : Type} (f : JobTable → α) : Prog α :=
  update fun table => (f table, table)

/-- Takes the job led by a process out of the table. -/
def remove (pid : Pid) : Prog (Option Job) :=
  update (·.remove pid)

/-- The job with an id. -/
def find? (id : Nat) : Prog (Option Job) :=
  look (·.find? id)

/-- The jobs, newest first. -/
def list : Prog (List Job) :=
  look (·.jobs)

/-- Collects every child that has ended, without waiting, and takes the jobs that they led out of the table.
The answer is the list of these jobs in the order in which they were found. -/
def reap : Prog (Except Failure (List Job)) :=
  Prog.repeated (fun found => do
    match ← awaitChange (-1) false with
    | .error e =>
      if e = .noChild then return .inr (.ok found)
      else if e = .interrupted then return .inl found
      else return .inr (.error (.reap e))
    | .ok change =>
      match change.pid? with
      | none => return .inr (.ok found)
      | some pid =>
        match ← remove pid with
        | some job => return .inl (found ++ [job])
        | none => return .inl found) []

end JobShell.Registry
