import JobShell.Text.Basic

/-! # The job table

A job is a pipeline in the background. It is led by the process of its last stage, and all its processes are
in the group of its first stage. The table lists the newest job first. Ids count from 1 and are never used
twice, and no two jobs have the same leader: a job whose leader's pid comes up again is replaced. -/

namespace JobShell

/-- A pipeline in the background. -/
structure Job where
  id : Nat
  /-- The process of the last stage. -/
  pid : Int
  /-- The process group of all stages. -/
  group : Int
  text : Text
deriving DecidableEq, Repr

/-- How a job is shown. -/
def Job.line (j : Job) : Text :=
  '[' :: Text.ofNat j.id ++ ']' :: ' ' :: Text.ofInt j.pid ++ ' ' :: j.text

/-- The jobs, newest first, and the last id that was given. -/
structure JobTable where
  jobs : List Job
  lastId : Nat
deriving DecidableEq, Repr

namespace JobTable

/-- The table without jobs. -/
def empty : JobTable := ⟨[], 0⟩

/-- The job led by a process. -/
def lead? (t : JobTable) (pid : Int) : Option Job :=
  t.jobs.find? fun j => j.pid == pid

/-- The job with an id. -/
def find? (t : JobTable) (id : Nat) : Option Job :=
  t.jobs.find? fun j => j.id == id

/-- Takes the job led by a process out of the table. -/
def remove (t : JobTable) (pid : Int) : Option Job × JobTable :=
  (t.lead? pid, { t with jobs := t.jobs.eraseP fun j => j.pid == pid })

/-- Puts a new job at the head of the table. -/
def add (t : JobTable) (pid group : Int) (text : Text) : Job × JobTable :=
  let job : Job := ⟨t.lastId + 1, pid, group, text⟩
  (job, ⟨job :: (t.remove pid).2.jobs, t.lastId + 1⟩)

end JobTable

end JobShell
