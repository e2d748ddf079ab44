import JobShell.Proofs.Recycling.Interpreter

/-! # What the reaper asks for when pids are used again

The reaper collects a child without having the table, and owes the removal of its pid until it has taken the table. It
goes on collecting until no child has ended, and only then waits for the next notice. -/

namespace JobShell.Recycling

/-- What the reaper knows. -/
inductive Reaping
  | idle
  /-- A note was taken back, and some child may have ended. -/
  | collecting
  /-- A child with this pid was collected, and the job of the pid is still to be removed. -/
  | owing (pid : Pid)
  | holding (pid : Pid) (t : JobTable)

namespace Reaping

def owed? : Reaping → Option Pid
  | owing pid => some pid
  | holding pid _ => some pid
  | _ => none

def held? : Reaping → Option JobTable
  | holding _ t => some t
  | _ => none

end Reaping

def reaper : Contract Reaping where
  pre
    | .awaitNotice, P, g => g = .idle ∧ P .childChanged .collecting ∧ P .interrupt .idle
    | .write _ _, P, g => g = .idle ∧ ∀ r, P r .idle
    | .wait target block, P, g => g = .collecting ∧ target = -1 ∧ block = false ∧
        (∀ pid x report, Tells pid x report → P (.ok report) (.owing pid)) ∧
        P (.ok .alive) .idle ∧ P (.error .noChild) .idle ∧ P (.error .interrupted) .collecting
    | .acquireJobs, P, g => ∃ pid, g = .owing pid ∧ ∀ t, P t (.holding pid t)
    | .releaseJobs t', P, g => ∃ pid t, g = .holding pid t ∧ t' = (t.remove pid).2 ∧ P () .collecting
    | _, _, _ => False
  mono := by
    intro c P Q g hPQ h
    cases c with
    | awaitNotice => exact ⟨h.1, hPQ _ _ h.2.1, hPQ _ _ h.2.2⟩
    | write d bytes => exact ⟨h.1, fun r => hPQ _ _ (h.2 r)⟩
    | wait target block =>
      obtain ⟨hg, ht, hb, hr, ha, hn, hi⟩ := h
      exact ⟨hg, ht, hb, fun pid x report hx => hPQ _ _ (hr pid x report hx), hPQ _ _ ha, hPQ _ _ hn, hPQ _ _ hi⟩
    | acquireJobs =>
      obtain ⟨pid, hg, h⟩ := h
      exact ⟨pid, hg, fun t => hPQ _ _ (h t)⟩
    | releaseJobs t' =>
      obtain ⟨pid, t, hg, ht, h⟩ := h
      exact ⟨pid, t, hg, ht, hPQ _ _ h⟩
    | _ => exact h.elim

theorem named_of_tells {pid : Pid} {x : Status} {report : Report} (h : Tells pid x report) :
    ∃ change, report.named = .ok change ∧ change.pid? = some pid := by
  cases report with
  | exited p code =>
    obtain ⟨rfl, -⟩ := h
    exact ⟨_, rfl, rfl⟩
  | signaled p n core =>
    obtain ⟨rfl, signal, -, rfl⟩ := h
    refine ⟨.signaled p signal core, ?_, rfl⟩
    rw [Report.named, Signal.ofNumber?_number]
  | _ => exact h.elim

theorem ensures_awaitAny : (awaitChange (-1) false).Ensures reaper (fun r g => match r with
    | .ok change => change.pid? = none ∧ g = .idle ∨ ∃ pid, change.pid? = some pid ∧ g = .owing pid
    | .error e => e = .noChild ∧ g = .idle ∨ e = .interrupted ∧ g = .collecting) .collecting := by
  refine Prog.ensures_perform ⟨rfl, rfl, rfl, fun pid x report hx => ?_, .inl ⟨rfl, rfl⟩, .inl ⟨rfl, rfl⟩,
    .inr ⟨rfl, rfl⟩⟩
  obtain ⟨change, hn, hp⟩ := named_of_tells hx
  show (pure report.named : Prog _).Ensures _ _ _
  rw [hn]
  exact .inr ⟨pid, hp, rfl⟩

theorem ensures_removeOwed (pid : Pid) :
    (Registry.remove pid).Ensures reaper (fun _ g => g = .collecting) (.owing pid) :=
  ensures_remove_of ⟨pid, rfl, fun t => ⟨pid, t, rfl, rfl, rfl⟩⟩

/-- Reaping ends only where no child has ended. -/
theorem ensures_reap : Registry.reap.Ensures reaper (fun _ g => g = .idle) .collecting := by
  refine Prog.ensures_repeated (fun _ g => g = .collecting) rfl ?_
  rintro found _ rfl
  refine Prog.ensures_bind (ensures_awaitAny.mono ?_)
  rintro (e | change) g hg
  · rcases hg with ⟨rfl, rfl⟩ | ⟨rfl, rfl⟩
    · exact rfl
    · exact rfl
  · rcases hg with ⟨hp, rfl⟩ | ⟨pid, hp, rfl⟩
    · simp only [hp]
      exact rfl
    · simp only [hp]
      refine Prog.ensures_bind ((ensures_removeOwed pid).mono ?_)
      rintro (_ | job) _ rfl
      · exact rfl
      · exact rfl

/-- The reaper ends, if it does, where it could not start a new line for the keyboard. -/
theorem ensures_run : Reaper.run.Ensures reaper (fun _ g => g = .idle) .idle := by
  refine Prog.ensures_repeated (fun _ g => g = .idle) rfl ?_
  rintro _ _ rfl
  refine Prog.ensures_perform ⟨rfl, ?_, ?_⟩
  · refine Prog.ensures_bind (Prog.ensures_bind (ensures_reap.mono ?_))
    rintro _ _ rfl
    exact rfl
  · refine Prog.ensures_bind (Prog.ensures_perform ⟨rfl, fun r => ?_⟩)
    cases r with
    | ok n => exact rfl
    | error e => cases h : decide (e = .badDescriptor) <;> simp only [h] <;> exact rfl

/-- The reaper is not at reaping: it starts again, waits for a notice or answers one from the keyboard. -/
def Rests (p : Prog Unit) : Prop :=
  p = Reaper.run ∨ (∃ next, p = .call .awaitNotice next) ∨ ∃ d bytes next, p = .call (.write d bytes) next

theorem Rests.idle {p : Prog Unit} {Q : Unit → Reaping → Prop} {g : Reaping} (h : Rests p) (hp : p.Ensures reaper Q g) :
    g = .idle := by
  rcases h with rfl | ⟨next, rfl⟩ | ⟨d, bytes, next, rfl⟩
  · obtain ⟨I, hI, hbody⟩ := hp
    exact (hbody () g hI).1
  · exact hp.1
  · exact hp.1

end JobShell.Recycling
