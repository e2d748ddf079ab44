import JobShell.Proofs.Job.Interpreter

/-! # What the reaper does to jobs

The reaper takes the table only to remove the job of a process that it has collected, and answers the jobs that it has
removed. -/

namespace JobShell.Threads

/-- What the reaper knows. -/
structure Reaping where
  held : Option JobTable
  /-- The process that was collected and whose job is still to be removed. -/
  owed : Option Pid
  /-- The jobs that were removed. -/
  taken : List Job

namespace Reaping

def begun : Reaping := ⟨none, none, []⟩

def collects (g : Reaping) (pid : Pid) : Reaping := { g with owed := some pid }

def takes (g : Reaping) (t : JobTable) : Reaping := { g with held := some t }

def drops (g : Reaping) (job : Option Job) : Reaping := ⟨none, none, g.taken ++ job.toList⟩

end Reaping

def reaper : Contract Reaping where
  pre
    | .wait target _, P, g => target = -1 ∧ g.held = none ∧ g.owed = none ∧
        (∀ report pid, Tells pid report → P (.ok report) (g.collects pid)) ∧ P (.ok .alive) g ∧
        P (.error .noChild) g ∧ P (.error .interrupted) g
    | .acquireJobs, P, g => g.held = none ∧ ∀ t, P t (g.takes t)
    | .releaseJobs t', P, g => ∃ t pid, g.held = some t ∧ g.owed = some pid ∧ t' = (t.remove pid).2 ∧
        P () (g.drops (t.remove pid).1)
    | _, _, _ => False
  mono := by
    intro c P Q g hPQ h
    cases c with
    | wait target block =>
      obtain ⟨ht, hh, ho, hr, ha, hn, hi⟩ := h
      exact ⟨ht, hh, ho, fun report pid ht => hPQ _ _ (hr report pid ht), hPQ _ _ ha, hPQ _ _ hn, hPQ _ _ hi⟩
    | acquireJobs => exact ⟨h.1, fun t => hPQ _ _ (h.2 t)⟩
    | releaseJobs t' =>
      obtain ⟨t, pid, hh, ho, ht, hP⟩ := h
      exact ⟨t, pid, hh, ho, ht, hPQ _ _ hP⟩
    | _ => exact h.elim

variable {g : Reaping}

theorem ensures_awaitAny (hh : g.held = none) (ho : g.owed = none) : (awaitChange (-1) false).Ensures reaper
    (fun r g' => match r with
      | .ok change => (change.pid? = none ∧ g' = g) ∨ ∃ pid, change.pid? = some pid ∧ g' = g.collects pid
      | .error e => (e = .noChild ∨ e = .interrupted) ∧ g' = g) g := by
  refine Prog.ensures_perform ⟨rfl, hh, ho, fun report pid ht => ?_, .inl ⟨rfl, rfl⟩, ⟨.inl rfl, rfl⟩, ⟨.inr rfl, rfl⟩⟩
  obtain ⟨change, status, hn, hpid, -⟩ := named_of_tells ht
  show (pure report.named : Prog _).Ensures _ _ _
  rw [hn]
  exact .inr ⟨pid, hpid, rfl⟩

theorem ensures_removeOwed {pid : Pid} (hh : g.held = none) (ho : g.owed = some pid) :
    (Registry.remove pid).Ensures reaper (fun job g' => g' = g.drops job) g :=
  Prog.ensures_perform ⟨hh, fun t => Prog.ensures_perform ⟨t, pid, rfl, ho, rfl, rfl⟩⟩

/-- The reaper answers what it has removed, and it owes nothing when it is done. -/
theorem ensures_reap : Registry.reap.Ensures reaper
    (fun r g => g.held = none ∧ g.owed = none ∧ r = .ok g.taken) .begun := by
  refine Prog.ensures_repeated (fun found g => g = ⟨none, none, found⟩) rfl ?_
  rintro found _ rfl
  refine Prog.ensures_bind ((ensures_awaitAny rfl rfl).mono ?_)
  rintro (e | change) g hg
  · obtain ⟨rfl | rfl, rfl⟩ := hg
    · exact ⟨rfl, rfl, rfl⟩
    · rfl
  · rcases hg with ⟨hp, rfl⟩ | ⟨pid, hp, rfl⟩
    · simp only [hp]
      exact ⟨rfl, rfl, rfl⟩
    · simp only [hp]
      refine Prog.ensures_bind ((ensures_removeOwed rfl rfl).mono ?_)
      rintro (_ | job) _ rfl
      · exact congrArg (Reaping.mk none none) (List.append_nil found)
      · rfl

end JobShell.Threads
