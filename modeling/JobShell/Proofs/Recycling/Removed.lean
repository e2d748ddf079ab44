import JobShell.Proofs.Recycling.Run

/-! # Which jobs are removed too early

The reaper collects a child before it takes the table, and then removes whatever job has the child's pid. If the pid is
given to a new leader in between, the job of this leader is removed while it is running. Nobody else removes a job whose
leader was not collected. -/

namespace JobShell.Recycling
open Threads (Thread Remover)

variable {shell : Shell} {home : Pid} {others : Set Pid} {s : System}

/-- Whatever the order of the steps and whichever pids the kernel gives: the leader of a job is the child that got the
job's pid last when the job came into the table. As long as it was not collected, no line removes or replaces the job,
and the job is in the table, or else the reaper has removed it after it had collected an older child with the same
pid. -/
theorem open_leader_listed (h : System.Reaches (.start shell home others) s) {job : Job} {i : Nat}
    (hl : (job, i) ∈ s.ledger.launched) : ∃ c, s.children[i]? = some c ∧ c.pid = job.pid ∧
      ((∀ x θ, c.phase ≠ .collected x θ) → (∀ line, (job, .line line) ∉ s.ledger.removed) ∧
        (job ∈ s.table.jobs ∨ (job, .reaper) ∈ s.ledger.removed ∧
          ∃ j c' x, j < i ∧ s.children[j]? = some c' ∧ c'.pid = job.pid ∧ c'.phase = .collected x .reaper)) := by
  obtain ⟨n, k, g, hs⟩ := sound_reaches h
  have hb : Books s.family s.table s.ledger := hs.sane.books
  have hi : s.family.pids[i]? = some job.pid := hb.leads job i hl
  obtain ⟨c, hc, hp⟩ := family_pids_eq_some_iff.mp hi
  refine ⟨c, hc, hp, fun hopen => ?_⟩
  have hgone : ¬ s.family.Gone i := by
    rw [Family.Gone, family_fate? hc, Child.fate?_eq_none hopen]
    exact not_not_intro rfl
  have hlines : ∀ line, (job, .line line) ∉ s.ledger.removed := by
    intro line hr
    rcases hb.excused job _ i hr hl with hg | ⟨hw, -⟩
    · exact hgone hg
    · cases hw
  refine ⟨hlines, (hb.kept job i hl).imp_right ?_⟩
  rintro ⟨who, hr⟩
  cases who with
  | line line => exact absurd hr (hlines line)
  | reaper =>
    obtain ⟨-, q, j, x, hji, hq, hj, hx⟩ := (hb.excused job _ i hr hl).resolve_left hgone
    rw [hi] at hq
    cases hq
    obtain ⟨c', hc', hx'⟩ := family_fate?_eq_some_iff.mp hx
    obtain ⟨c'', hc'', hp'⟩ := family_pids_eq_some_iff.mp hj
    rw [hc'] at hc''
    cases hc''
    exact ⟨hr, j, c', x, hji, hc', hp', hx'⟩

/-! ### Two jobs, the second of which gets the pid of the first -/

def freshShell : Shell := { limits := {} }

def olderLine : Text := ['a', ' ', '&']

def newerLine : Text := ['b', ' ', '&']

def olderJob : Job := ⟨1, 71, 71, ['a']⟩

def newerJob : Job := ⟨2, 71, 71, ['b']⟩

/-- The reaper collects the leader of a job. Before it has the table, a line forks a new leader with the same pid, and its
job takes the place of the old one. The reaper then removes the new job. -/
theorem reaches_reusedPid : ∃ s, System.Reaches (.start freshShell 7 ∅) s ∧ s.interpreter = none ∧
    (newerJob, 1) ∈ s.ledger.launched ∧ s.children[1]? = some ⟨71, 71, .running⟩ ∧ s.table.jobs = [] := by
  have h : System.Reaches (.start freshShell 7 ∅) (.start freshShell 7 ∅) := .refl
  replace h := h.tail (.enter olderLine rfl)
  replace h := h.tail (step_line .acquireJobs JobTable.empty ⟨rfl, rfl, rfl⟩)
  replace h := h.tail (step_line .fork (.ok (.parent 71) : Except Errno Forked)
    ⟨⟨by decide, by decide, id, fun _ hc => absurd hc List.not_mem_nil⟩, rfl⟩)
  replace h := h.tail (step_line (.setGroup 71 71) (.ok () : Except Errno Unit) ⟨0, _, rfl, rfl, nofun, rfl⟩)
  replace h := h.tail (step_line (.releaseJobs ⟨[olderJob], 1⟩) () ⟨rfl, rfl⟩)
  replace h := h.tail (step_line (.print _) (.ok () : Except Errno Unit) rfl)
  replace h := h.tail (.finish rfl)
  replace h := h.tail (@System.Step.ends _ 0 _ (.exited 0) rfl rfl)
  replace h := h.tail (.delivers rfl)
  replace h := h.tail (.repeatReap rfl)
  replace h := h.tail (step_reap .awaitNotice .childChanged ⟨rfl, rfl⟩)
  replace h := h.tail (.repeatReap rfl)
  replace h := h.tail (step_reap (.wait (-1) false) (.ok (.exited 71 0) : Except Errno Report)
    (@Waited.collects _ _ _ _ 0 _ (.exited 0) _ rfl rfl (.inl rfl) ⟨rfl, rfl⟩))
  -- The pid is free again, and the reaper has not asked for the table yet.
  replace h := h.tail (.enter newerLine rfl)
  replace h := h.tail (step_line .acquireJobs ⟨[olderJob], 1⟩ ⟨rfl, rfl, rfl⟩)
  replace h := h.tail (step_line .fork (.ok (.parent 71) : Except Errno Forked)
    ⟨⟨by decide, by decide, id, fun c hc => .inl (by rw [List.mem_singleton.mp hc]; exact ⟨_, _, rfl⟩)⟩, rfl⟩)
  replace h := h.tail (step_line (.setGroup 71 71) (.ok () : Except Errno Unit) ⟨1, _, rfl, rfl, nofun, rfl⟩)
  replace h := h.tail (step_line (.releaseJobs ⟨[newerJob], 2⟩) () ⟨rfl, rfl⟩)
  replace h := h.tail (step_line (.print _) (.ok () : Except Errno Unit) rfl)
  replace h := h.tail (.finish rfl)
  replace h := h.tail (step_reap .acquireJobs ⟨[newerJob], 2⟩ ⟨rfl, rfl, rfl⟩)
  replace h := h.tail (step_reap (.releaseJobs ⟨[], 2⟩) () ⟨rfl, rfl⟩)
  refine ⟨_, h, rfl, .inl (.inr ⟨List.mem_cons_self, by decide, rfl, fun j hj he => ?_⟩), rfl, rfl⟩
  have hlt : j < 2 := (List.getElem?_eq_some_iff.mp he).1
  exact absurd hj (Nat.not_lt.mpr (Nat.le_of_lt_succ hlt))

theorem open_leader_listed_reusedPid : ∃ s, System.Reaches (.start freshShell 7 ∅) s ∧
    (newerJob, 1) ∈ s.ledger.launched ∧ (newerJob, .reaper) ∈ s.ledger.removed ∧
    (∀ line, (newerJob, .line line) ∉ s.ledger.removed) ∧
    ∃ c x, s.children[0]? = some c ∧ c.pid = newerJob.pid ∧ c.phase = .collected x .reaper := by
  obtain ⟨s, h, -, hl, hc, ht⟩ := reaches_reusedPid
  obtain ⟨c, hc', -, hopen⟩ := open_leader_listed h hl
  rw [hc] at hc'
  cases hc'
  obtain ⟨hlines, hlisted⟩ := hopen nofun
  rw [ht] at hlisted
  obtain ⟨hr, j, c', x, hj, hc', hp, hx⟩ := hlisted.resolve_left List.not_mem_nil
  obtain rfl : j = 0 := Nat.lt_one_iff.mp hj
  exact ⟨s, h, hl, hr, hlines, c', x, hc', hp, hx⟩

/-- A job is no longer in the table although its leader was not collected. -/
theorem open_leader_unlisted : ∃ s, System.Reaches (.start freshShell 7 ∅) s ∧ s.interpreter = none ∧
    ∃ job i c, (job, i) ∈ s.ledger.launched ∧ s.children[i]? = some c ∧ (∀ x θ, c.phase ≠ .collected x θ) ∧
      job ∉ s.table.jobs := by
  obtain ⟨s, h, hi, hl, hc, ht⟩ := reaches_reusedPid
  refine ⟨s, h, hi, newerJob, 1, _, hl, hc, nofun, ?_⟩
  rw [ht]
  exact List.not_mem_nil

end JobShell.Recycling
