import JobShell.Proofs.Recycling.Run

/-! # No child is forgotten

When the signal of an ended child is neither pending nor noted and neither thread is at work, no child waits to be
collected, and the leaders of all jobs in the table are running. -/

namespace JobShell.Recycling
open Threads (Thread Remover)

variable {shell : Shell} {home : Pid} {others : Set Pid} {s : System}

/-- Whatever children end, and whenever: if the signal is neither pending nor noted, the reaper is not at reaping and
the interpreter is between two lines, then no child that has ended was left uncollected, and every job in the table is
led by a child that is still running. -/
theorem all_noticed (h : System.Reaches (.start shell home others) s) (hp : s.pending = false) (hn : s.noted = false)
    (hr : Rests s.reaper) (hi : s.interpreter = none) :
    (∀ c ∈ s.children, ∀ x, c.phase ≠ .ended x) ∧
    ∀ job ∈ s.table.jobs, (∃ i, (job, i) ∈ s.ledger.launched) ∧ ∀ i, (job, i) ∈ s.ledger.launched →
      ∃ c, s.children[i]? = some c ∧ c.pid = job.pid ∧ c.phase = .running := by
  obtain ⟨n, k, g, hs⟩ := sound_reaches h
  obtain rfl : g = .idle := hr.idle hs.reaping
  have hwork := hs.evaluating
  rw [hi] at hwork
  subst hwork
  have hopen : ∀ c ∈ s.children, ∀ x, c.phase ≠ .ended x := by
    intro c hc x hx
    rcases hs.sane.noticed ⟨c, hc, x, hx⟩ with hpending | hnoted | hg
    · rw [hp] at hpending
      cases hpending
    · rw [hn] at hnoted
      cases hnoted
    · exact hg rfl
  refine ⟨hopen, fun job hj => ⟨hs.sane.books.listed job hj, fun i hl => ?_⟩⟩
  obtain ⟨c, hc, hpid⟩ := family_pids_eq_some_iff.mp (hs.sane.books.leads job i hl)
  refine ⟨c, hc, hpid, ?_⟩
  cases hphase : c.phase with
  | running => rfl
  | ended x => exact absurd hphase (hopen c (List.mem_of_getElem? hc) x)
  | collected x θ =>
    -- Neither thread owes a removal.
    have hgone : s.family.Gone i := Family.gone_of_fate? (family_fate?_eq_some_iff.mpr ⟨c, hc, hphase⟩)
    rcases hs.sane.owing.table job i hj hl hgone with ⟨-, hw⟩ | ho
    · cases hw
    · cases ho

/-! ### Two jobs, the leader of the first of which ends -/

def emptyShell : Shell := { limits := {} }

def endingLine : Text := ['a', ' ', '&']

def stayingLine : Text := ['b', ' ', '&']

def endingJob : Job := ⟨1, 71, 71, ['a']⟩

def stayingJob : Job := ⟨2, 72, 72, ['b']⟩

/-- The leader of the first job ends while the table is held for the second one. The reaper is told, collects it, waits
for the table, removes the job and finds that no other child has ended. -/
theorem reaches_noticed : ∃ s, System.Reaches (.start emptyShell 7 ∅) s ∧ s.pending = false ∧ s.noted = false ∧
    s.reaper = Reaper.run ∧ s.interpreter = none ∧ s.table.jobs = [stayingJob] ∧
    s.children = [⟨71, 71, .collected (.exited 0) .reaper⟩, ⟨72, 72, .running⟩] := by
  have h : System.Reaches (.start emptyShell 7 ∅) (.start emptyShell 7 ∅) := .refl
  replace h := h.tail (.enter endingLine rfl)
  replace h := h.tail (step_line .acquireJobs JobTable.empty ⟨rfl, rfl, rfl⟩)
  replace h := h.tail (step_line .fork (.ok (.parent 71) : Except Errno Forked)
    ⟨⟨by decide, by decide, id, fun _ hc => absurd hc List.not_mem_nil⟩, rfl⟩)
  replace h := h.tail (step_line (.setGroup 71 71) (.ok () : Except Errno Unit) ⟨0, _, rfl, rfl, nofun, rfl⟩)
  replace h := h.tail (step_line (.releaseJobs ⟨[endingJob], 1⟩) () ⟨rfl, rfl⟩)
  replace h := h.tail (step_line (.print _) (.ok () : Except Errno Unit) rfl)
  replace h := h.tail (.finish rfl)
  replace h := h.tail (.enter stayingLine rfl)
  replace h := h.tail (step_line .acquireJobs ⟨[endingJob], 1⟩ ⟨rfl, rfl, rfl⟩)
  replace h := h.tail (@System.Step.ends _ 0 _ (.exited 0) rfl rfl)
  replace h := h.tail (.delivers rfl)
  replace h := h.tail (.repeatReap rfl)
  replace h := h.tail (step_reap .awaitNotice .childChanged ⟨rfl, rfl⟩)
  replace h := h.tail (.repeatReap rfl)
  replace h := h.tail (step_reap (.wait (-1) false) (.ok (.exited 71 0) : Except Errno Report)
    (@Waited.collects _ _ _ _ 0 _ (.exited 0) _ rfl rfl (.inl rfl) ⟨rfl, rfl⟩))
  replace h := h.tail (step_line .fork (.ok (.parent 72) : Except Errno Forked)
    ⟨⟨by decide, by decide, id, fun c hc => .inl (by rw [List.mem_singleton.mp hc]; exact ⟨_, _, rfl⟩)⟩, rfl⟩)
  replace h := h.tail (step_line (.setGroup 72 72) (.ok () : Except Errno Unit) ⟨1, _, rfl, rfl, nofun, rfl⟩)
  replace h := h.tail (step_line (.releaseJobs ⟨[stayingJob, endingJob], 2⟩) () ⟨rfl, rfl⟩)
  replace h := h.tail (step_line (.print _) (.ok () : Except Errno Unit) rfl)
  replace h := h.tail (.finish rfl)
  replace h := h.tail (step_reap .acquireJobs ⟨[stayingJob, endingJob], 2⟩ ⟨rfl, rfl, rfl⟩)
  replace h := h.tail (step_reap (.releaseJobs ⟨[stayingJob], 2⟩) () ⟨rfl, rfl⟩)
  replace h := h.tail (.repeatReap rfl)
  replace h := h.tail (step_reap (.wait (-1) false) (.ok .alive : Except Errno Report)
    (.alive rfl ⟨_, List.mem_cons_of_mem _ List.mem_cons_self, .inl rfl, rfl⟩ fun c hc _ x hx => by
      rcases List.mem_cons.mp hc with rfl | hc
      · cases hx
      · rw [List.mem_singleton.mp hc] at hx
        cases hx))
  exact ⟨_, h, rfl, rfl, rfl, rfl, rfl, rfl⟩

theorem all_noticed_staying : ∃ s, System.Reaches (.start emptyShell 7 ∅) s ∧ s.pending = false ∧ s.noted = false ∧
    Rests s.reaper ∧ s.interpreter = none ∧ s.table.jobs = [stayingJob] ∧
    (∀ c ∈ s.children, ∀ x, c.phase ≠ .ended x) ∧ ∃ i c, (stayingJob, i) ∈ s.ledger.launched ∧
      s.children[i]? = some c ∧ c.pid = 72 ∧ c.phase = .running := by
  obtain ⟨s, h, hp, hn, hr, hi, ht, -⟩ := reaches_noticed
  obtain ⟨hopen, hjobs⟩ := all_noticed h hp hn (.inl hr) hi
  obtain ⟨⟨i, hl⟩, hled⟩ := hjobs stayingJob (by rw [ht]; exact List.mem_cons_self)
  obtain ⟨c, hc, hpid, hrunning⟩ := hled i hl
  exact ⟨s, h, hp, hn, .inl hr, hi, ht, hopen, i, c, hl, hc, hpid, hrunning⟩

end JobShell.Recycling
