import JobShell.Proofs.Estate.Printing
import JobShell.Proofs.Job.History
import JobShell.Proofs.Job.Listing

/-! # What lines do to the job table

A launch in the background adds one job, and `fg` removes the job that it has waited for. All other changes are removals
by the reaper. So the table behind a line is one that operations have led to. -/

namespace JobShell.Estate

variable {reaper : Prop} {s s' : State} {k k' k'' : State × List Noted} {α β : Type}

theorem Drift.becomes (h : Drift reaper s s') : s.table.Becomes s'.table := by
  cases h with
  | ends => exact .refl _
  | calms h =>
    obtain ⟨n, -, rfl⟩ := h
    exact .refl _
  | reaps => exact .refl _
  | removes pid => exact (JobTable.Becomes.refl s.table).remove pid

theorem drifts_becomes (h : (world reaper).Drifts s s') : s.table.Becomes s'.table := by
  induction h with
  | refl => exact .refl _
  | tail _ hd ih => exact ih.trans hd.becomes

/-! ### Launching in the background -/

/-- How a launch in the background goes. A job is added to the table as it was when the interpreter took it. -/
inductive Begun (reaper : Prop) (text : Text) (n : Nat) (k : State × List Noted) :
    Except Failure Launched → State × List Noted → Prop
  | started {s s₁ : State} {made : List Noted} {first : Pid} {rest : List Pid} (hs : (world reaper).Drifts k.1 s)
      (hmade : Spawning n made (first :: rest) none)
      (h : Stands reaper { s with held := true } {q | q ∈ first :: rest} s.descriptors s₁) :
      Begun reaper text n k
        (.ok (.background (s.table.add ((first :: rest).getLast (List.cons_ne_nil _ _)) first text).1))
        ({ s₁ with
          table := (s.table.add ((first :: rest).getLast (List.cons_ne_nil _ _)) first text).2, held := false },
          k.2 ++ made)
  | refused {s' : State} {made notes : List Noted} {pids : List Pid} {f : Failure}
      (hmade : Spawning n made pids (some f)) (habandon : Abandoning reaper pids notes) (hd : (world reaper).Drifts k.1 s') :
      Begun reaper text n k (.error f) (s', k.2 ++ (made ++ notes))

theorem ensures_background_begun (hk : k.1.held = false) (text : Text) {stages : List Invocation} (hne : stages ≠ []) :
    (Launch.background text stages).Ensures (contract reaper) (Begun reaper text stages.length k) k := by
  refine Prog.ensures_perform (pre_acquire hk fun s hs => ?_)
  refine Prog.ensures_bind ((ensures_spawn true stages ({ s with held := true }, k.2)).mono ?_)
  rintro (f | pids) k₁ h₁
  · obtain ⟨made, pids, notes, hmade, habandon, hn, hd, -⟩ := h₁
    have hheld : k₁.1.held = true := drifts_held hd
    refine Prog.ensures_perform (pre_release hheld fun s₂ hs₂ => ?_)
    rw [hn]
    exact .refused hmade habandon (hs.trans (drifts_unheld ((drifts_held hs).trans hk) (hd.trans hs₂)))
  · obtain ⟨made, hmade, hn, h, -⟩ := h₁
    have hheld : k₁.1.held = true := congrArg Own.held h.own
    cases pids with
    | nil =>
      -- There are stages, so there is a process.
      exact absurd (List.eq_nil_of_length_eq_zero hmade.length.symm) hne
    | cons first rest =>
      refine Prog.ensures_perform (pre_release hheld fun s₂ hs₂ => ?_)
      rw [hn]
      exact .started hs hmade (h.drifts_stands hs₂)

/-! ### Between lines -/

/-- The interpreter does not have the table, and operations have led to it. -/
structure Keeps (k k' : State × List Noted) : Prop where
  held : k'.1.held = false
  table : k.1.table.Becomes k'.1.table

theorem Keeps.refl (hk : k.1.held = false) : Keeps k k := ⟨hk, .refl _⟩

theorem Keeps.trans (h : Keeps k k') (h' : Keeps k' k'') : Keeps k k'' := ⟨h'.held, h.table.trans h'.table⟩

theorem Keeps.of_same (hk : k.1.held = false) (hs : (world reaper).Drifts k.1 s) (hheld : k'.1.held = s.held)
    (htable : k'.1.table = s.table) : Keeps k k' :=
  ⟨hheld.trans ((drifts_held hs).trans hk), htable ▸ drifts_becomes hs⟩

theorem Keeps.of_drifts (hk : k.1.held = false) (h : (world reaper).Drifts k.1 k'.1) : Keeps k k' :=
  .of_same hk h rfl rfl

theorem ensures_bind_keeps {x : Action α} {f : α → Action β}
    (hx : x.run.Ensures (contract reaper) (fun _ => Keeps k) k)
    (hf : ∀ a k', Keeps k k' → (f a).run.Ensures (contract reaper) (fun _ => Keeps k') k') :
    (x >>= f).run.Ensures (contract reaper) (fun _ => Keeps k) k := by
  refine Prog.ensures_run_bind (hx.mono ?_)
  rintro (f' | a) k₁ h₁
  · exact h₁
  · exact (hf a k₁ h₁).mono fun _ _ h₂ => h₁.trans h₂

theorem ensures_lift_keeps {p : Prog α} (hp : p.Ensures (contract reaper) (fun _ => Keeps k) k) :
    (ExceptT.lift p : Action α).run.Ensures (contract reaper) (fun _ => Keeps k) k :=
  Prog.ensures_bind (hp.mono fun _ _ h => Prog.ensures_pure h)

theorem ensures_waitFor_keeps (hk : k.1.held = false) (pid : Pid) :
    (waitFor pid).Ensures (contract reaper) (fun _ => Keeps k) k := by
  refine (ensures_waitFor pid k).mono ?_
  rintro _ _ ⟨s, hs, _ | _⟩
  · exact .of_same hk hs rfl rfl
  · exact .of_same hk hs rfl rfl

/-- What the table is looked at for is what it says at one moment. -/
theorem ensures_look_at {α : Type} (hk : k.1.held = false) (f : JobTable → α) :
    (Registry.look f).Ensures (contract reaper) (fun a k' => k'.2 = k.2 ∧ ∃ s, (world reaper).Drifts k.1 s ∧
      a = f s.table ∧ (world reaper).Drifts s k'.1) k :=
  ensures_look_of (pre_acquire hk fun s hs => pre_release rfl fun _ hs₁ =>
    ⟨rfl, s, hs, rfl, drifts_unheld ((drifts_held hs).trans hk) hs₁⟩)

theorem ensures_remove_keeps (hk : k.1.held = false) (pid : Pid) :
    (Registry.remove pid).Ensures (contract reaper) (fun _ => Keeps k) k :=
  ensures_remove_of (pre_acquire hk fun _ hs => pre_release rfl fun _ _ => ⟨rfl, (drifts_becomes hs).remove pid⟩)

theorem ensures_background_keeps (hk : k.1.held = false) {text : Text} (htext : '\n' ∉ text) {stages : List Invocation}
    (hne : stages ≠ []) : (Launch.background text stages).Ensures (contract reaper) (fun _ => Keeps k) k := by
  refine (ensures_background_begun hk text hne).mono ?_
  rintro _ _ (⟨hs, -, -⟩ | ⟨-, -, hd⟩)
  · exact ⟨rfl, (drifts_becomes hs).add _ _ htext⟩
  · exact .of_drifts hk hd

theorem ensures_foreground_keeps (hk : k.1.held = false) (stages : List Invocation) :
    (Launch.foreground stages).Ensures (contract reaper) (fun _ => Keeps k) k := by
  refine Prog.ensures_bind ((ensures_spawn false stages k).mono ?_)
  rintro (f | pids) k₁ h₁
  · obtain ⟨-, -, -, -, -, -, hd, -⟩ := h₁
    exact Prog.ensures_pure (.of_drifts hk hd)
  · obtain ⟨-, -, -, h, -⟩ := h₁
    obtain ⟨s₁, hs₁, htable, -⟩ := h.rest
    have hheld : k₁.1.held = k.1.held := congrArg Own.held h.own
    have h₁ : Keeps k k₁ := .of_same hk hs₁ (hheld.trans (drifts_held hs₁).symm) htable
    refine Prog.ensures_bind ((ensures_waitAll_of_each (Keeps k) h₁ fun pid _ k₂ h₂ =>
      (ensures_waitFor_keeps h₂.held pid).mono fun _ _ h₃ => h₂.trans h₃).mono ?_)
    rintro (f | statuses) k₂ h₂
    · exact Prog.ensures_pure h₂
    · exact Prog.ensures_pure h₂

theorem ensures_launch_keeps (hk : k.1.held = false) {p : Pipeline} (htext : '\n' ∉ p.text) :
    (launch p).Ensures (contract reaper) (fun _ => Keeps k) k := by
  refine Launch.ensures_launch_of (fun _ => .refl hk) (fun _ _ => .refl hk) fun stages _ hne _ => ?_
  split
  · exact ensures_background_keeps hk htext hne
  · exact ensures_foreground_keeps hk stages

namespace Builtin
open JobShell.Builtin

theorem ensures_printLine_keeps (hk : k.1.held = false) (line : Text) :
    (printLine line).run.Ensures (contract reaper) (fun _ => Keeps k) k := by
  refine (ensures_printLine_printed line k).mono ?_
  rintro _ _ ⟨s, hs, _ | _⟩
  · exact .of_same hk hs rfl rfl
  · exact .of_same hk hs rfl rfl

theorem ensures_resume_sent (b : Builtin) (group : Pid) (k : State × List Noted) :
    (b.resume group).run.Ensures (contract reaper)
      (fun _ k' => k' = (k.1, k.2 ++ [.killedGroup group Signal.resume.number])) k := by
  refine Prog.ensures_perform (pre_quiet (c := .killGroup group Signal.resume.number) trivial fun r => ?_)
  rcases r with e | _
  · by_cases he : e = .noProcess <;> simp only [he, if_true, if_false]
    · exact Prog.ensures_pure rfl
    · exact Prog.ensures_pure rfl
  · exact Prog.ensures_pure rfl

theorem ensures_resume_keeps (hk : k.1.held = false) (b : Builtin) (group : Pid) :
    (b.resume group).run.Ensures (contract reaper) (fun _ => Keeps k) k := by
  refine (ensures_resume_sent b group k).mono ?_
  rintro _ _ rfl
  exact ⟨hk, .refl _⟩

theorem ensures_findJob_keeps (hk : k.1.held = false) (b : Builtin) (args : List Text) :
    (b.findJob args).run.Ensures (contract reaper) (fun _ => Keeps k) k := by
  refine ensures_findJob_of (fun _ _ => .refl hk) fun id _ => (ensures_look hk _).mono ?_
  rintro (_ | job) k' h
  · exact .of_drifts hk h.1
  · exact .of_drifts hk h.1

theorem ensures_changeDirectory_keeps (hk : k.1.held = false) (args : List Text) :
    (changeDirectory args).run.Ensures (contract reaper) (fun _ => Keeps k) k := by
  refine ensures_changeDirectory_of (fun _ _ => .refl hk) fun path _ => ?_
  refine Surroundings.noting_pre fun s hs => ⟨⟨s, .ok (), _, .refl, s.directory, rfl⟩, fun r s' ha => ⟨s', .refl, ?_⟩⟩
  have hkeeps : Keeps k (s, k.2) := .of_drifts hk hs
  cases r with
  | ok _ =>
    obtain ⟨directory, rfl⟩ := ha
    exact ⟨hkeeps.held, hkeeps.table⟩
  | error e =>
    obtain rfl := ha
    exact ⟨hkeeps.held, hkeeps.table⟩

theorem ensures_listJobs_keeps (hk : k.1.held = false) :
    listJobs.run.Ensures (contract reaper) (fun _ => Keeps k) k := by
  refine ensures_bind_keeps (ensures_lift_keeps ((ensures_look hk _).mono fun _ _ h => .of_drifts hk h.1)) ?_
  intro jobs k₁ h₁
  have hk₁ := h₁.held
  clear h₁
  induction jobs generalizing k₁ with
  | nil => exact Prog.ensures_pure (.refl hk₁)
  | cons job jobs ih => exact ensures_bind_keeps (ensures_printLine_keeps hk₁ _) fun _ k₂ h₂ => ih k₂ h₂.held

theorem ensures_foreground_keeps (hk : k.1.held = false) (args : List Text) :
    (foreground args).run.Ensures (contract reaper) (fun _ => Keeps k) k := by
  refine ensures_bind_keeps (ensures_findJob_keeps hk _ _) fun job k₁ h₁ => ?_
  refine ensures_bind_keeps (ensures_printLine_keeps h₁.held _) fun _ k₂ h₂ => ?_
  refine Prog.ensures_lift_bind (Prog.ensures_call (ignores_terminal.isTerminal _ fun terminal => ?_))
  refine ensures_ite_lift_of terminal (ignores_terminal.ensures_setForeground _) ?_
  refine ensures_bind_keeps (ensures_resume_keeps h₂.held _ _) fun _ k₃ h₃ => ?_
  refine Prog.ensures_lift_bind ((ensures_waitFor_keeps h₃.held job.pid).mono fun r k₄ h₄ => ?_)
  refine ensures_ite_lift_of terminal ignores_terminal.ensures_reclaim ?_
  refine Prog.ensures_lift_bind ((ensures_remove_keeps h₄.held job.pid).mono fun _ k₅ h₅ => ?_)
  cases r <;> exact h₄.trans h₅

theorem ensures_run_keeps (hk : k.1.held = false) (b : Builtin) (args : List Text) :
    (b.run args).run.Ensures (contract reaper) (fun _ => Keeps k) k := by
  cases b with
  | exit => exact Prog.ensures_pure (.refl hk)
  | cd => exact ensures_proceed_of (ensures_changeDirectory_keeps hk args)
  | jobs => exact ensures_proceed_of (ensures_listJobs_keeps hk)
  | fg => exact ensures_proceed_of (ensures_foreground_keeps hk args)
  | bg =>
    exact ensures_proceed_of (ensures_bind_keeps (ensures_findJob_keeps hk _ _) fun job k' h =>
      ensures_resume_keeps h.held _ _)

end Builtin

theorem ensures_launchLine_keeps (hk : k.1.held = false) {p : Pipeline} (htext : '\n' ∉ p.text) :
    (Shell.launchLine p).run.Ensures (contract reaper) (fun _ => Keeps k) k := by
  refine ensures_bind_keeps (ensures_launch_keeps hk htext) fun launched k' h => ?_
  cases launched with
  | foreground statuses => exact Prog.ensures_pure (.refl h.held)
  | background job =>
    exact ensures_bind_keeps (Builtin.ensures_printLine_keeps h.held _) fun _ _ h' =>
      Prog.ensures_pure (.refl h'.held)

theorem ensures_eval_keeps (hk : k.1.held = false) (shell : Shell) (line : Text) :
    (shell.eval line).Ensures (contract reaper) (fun _ => Keeps k) k := by
  refine Shell.ensures_eval_of (Shell.ensures_obey_of (fun _ _ => .refl hk) (fun _ _ _ => .refl hk)
    (fun p b args _ _ => Builtin.ensures_run_keeps hk b args) fun p hp _ _ => ?_)
  exact ensures_launchLine_keeps hk (Pipeline.lineFeed_notMem_text hp)

/-- What happens to the estate from line to line. -/
inductive Turn (reaper : Prop) : State → State → Prop
  | drift {s s' : State} (hd : Drift reaper s s') : Turn reaper s s'
  | line {s s' : State} {shell : Shell} {line : Text} {r : Except Failure Flow × Shell}
      (hrun : Prog.Reaches (world reaper) (s, shell.eval line) (s', .done r)) : Turn reaper s s'

/-- Any number of lines are evaluated, one after the other. -/
abbrev Evolves (reaper : Prop) : State → State → Prop := Relation.ReflTransGen (Turn reaper)

theorem Turn.keeps (h : Turn reaper s s') (hs : s.held = false) :
    s'.held = false ∧ s.table.Becomes s'.table := by
  cases h with
  | drift hd => exact ⟨(congrArg Own.held hd.own).trans hs, hd.becomes⟩
  | @line shell line r hrun =>
    obtain ⟨new, hnoted⟩ := Prog.Reaches.noting note hrun []
    have hkeeps : (shell.eval line).Ensures (contract reaper) (fun _ => Keeps (s, [])) (s, []) :=
      ensures_eval_keeps hs shell line
    obtain ⟨k', hd, h⟩ := hkeeps.ends_live .refl hnoted
    have hdrifts := (Surroundings.noting_drifts_iff.mp hd).1
    exact ⟨(drifts_held hdrifts).trans h.held, h.table.trans (drifts_becomes hdrifts)⟩

theorem Evolves.keeps (h : Evolves reaper s s') (hs : s.held = false) :
    s'.held = false ∧ s.table.Becomes s'.table := by
  induction h with
  | refl => exact ⟨hs, .refl _⟩
  | tail _ hturn ih =>
    obtain ⟨hheld, hbecomes⟩ := ih
    obtain ⟨hheld', hbecomes'⟩ := hturn.keeps hheld
    exact ⟨hheld', hbecomes.trans hbecomes'⟩

/-- The interpreter at its start, without children and without jobs. -/
def alone : State where
  descriptors := fun _ => none
  held := false
  directory := 0
  output := []
  environment := []
  children := fun _ => none
  table := .empty
  disturbances := 0

def plainShell : Shell := ⟨⟨10, 63⟩, 0⟩

end JobShell.Estate
