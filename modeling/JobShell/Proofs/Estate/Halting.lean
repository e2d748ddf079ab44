import JobShell.Proofs.Estate.Calls
import JobShell.Shell

/-! # No endless lines

A wait is disturbed only so many times, and all else that a line does is done once. So no line goes on for ever, as long
as its children end. -/

namespace JobShell.Estate

variable {reaper : Prop}

theorem Drift.disturbances {s s' : State} (h : Drift reaper s s') : s'.disturbances ≤ s.disturbances := by
  cases h with
  | calms h =>
    obtain ⟨n, hn, rfl⟩ := h
    exact hn ▸ Nat.le_succ n
  | _ => exact Nat.le_refl _

theorem drifts_disturbances {s s' : State} (h : (world reaper).Drifts s s') : s'.disturbances ≤ s.disturbances := by
  induction h with
  | refl => exact Nat.le_refl _
  | tail _ hd ih => exact (Drift.disturbances hd).trans ih

/-- A wait that does not end has been disturbed. -/
theorem Waited.disturbed {target : Pid} {s s' : State} {r : Except Errno Report} (h : Waited target s r s')
    (hr : waited? target r = none) : s'.disturbances < s.disturbances := by
  have calms : ∀ {s' : State}, s.Calms s' → s'.disturbances < s.disturbances := by
    rintro _ ⟨n, hn, rfl⟩
    exact hn ▸ Nat.lt_succ_self n
  cases r with
  | error e =>
    rcases h with ⟨-, hc⟩ | ⟨rfl, -, -⟩
    · exact calms hc
    · cases hr
  | ok report =>
    rcases h with ⟨pid, e, -, -, hreport, -⟩ | ⟨-, hc⟩
    · rw [waited?_of_reported hreport] at hr
      cases hr
    · exact calms hc

/-- A program that halts concludes with what it ensures, as far as this lasts whatever happens behind the program. -/
theorem concludes_of_ensures {α : Type} {p : Prog α} {k : State × List Noted} {P Q : α → State × List Noted → Prop}
    (hp : Prog.Halts (noted reaper) p) (h : p.Ensures (contract reaper) Q k)
    (hlasts : ∀ r k' s, Q r k' → (world reaper).Drifts k'.1 s → P r (s, k'.2)) :
    Prog.Concludes (noted reaper) P k p := by
  refine ((hp k).concludes .refl h).mono ?_
  rintro r ⟨s, notes⟩ ⟨k', hk', hQ⟩
  obtain ⟨hs, hnotes⟩ := Surroundings.noting_drifts_iff.mp hk'
  obtain rfl : notes = k'.2 := hnotes
  exact hlasts r k' s hQ hs

theorem halts_waitFor (target : Pid) : Prog.Halts (noted reaper) (waitFor target) := by
  rw [waitFor_eq]
  refine Prog.halts_repeated (fun _ k => k.1.disturbances) (fun _ _ => .call fun _ _ _ _ _ => .done) ?_ ()
  intro _ k _ k' hrun
  have hbody : ∀ k, (Prog.call (.wait target true) fun r => .done ((waited? target r).elim (.inl ()) .inr) :
      Prog (Unit ⊕ Except Failure (Option Status))).Ensures (contract reaper)
      (fun x k' => ∀ t, x = .inl t → k'.1.disturbances < k.1.disturbances) k := by
    intro k
    refine Surroundings.noting_pre fun s hs => ⟨open_wait target s, fun r s' ha => ⟨s', .refl, fun t ht => ?_⟩⟩
    have hnone : waited? target r = none := by
      cases hr : waited? target r with
      | none => rfl
      | some answer =>
        rw [hr] at ht
        cases ht
    exact (Waited.disturbed ha hnone).trans_le (drifts_disturbances hs)
  obtain ⟨k₁, hk₁, hlt⟩ := (hbody k).ends_live .refl hrun
  exact (drifts_disturbances (Surroundings.noting_drifts_iff.mp hk₁).1).trans_lt (hlt _ rfl)

theorem halts_waitAll (pids : List Pid) : Prog.Halts (noted reaper) (waitAll pids) := by
  induction pids with
  | nil => exact Prog.halts_pure _
  | cons pid pids ih =>
    refine Prog.halts_bind (halts_waitFor pid) ?_
    rintro (f | status)
    · exact Prog.halts_pure _
    · refine Prog.halts_bind ih ?_
      rintro (f | statuses) <;> exact Prog.halts_pure _

namespace Launch
open JobShell.Launch

theorem halts_start (i : Invocation) (w : Wiring) : Prog.Halts (noted reaper) (start i w) := by
  refine fun k => .call ?_
  rintro _ (e | _ | pid) k₂ - ha
  · exact .done
  · exact ha.1.elim
  · obtain ⟨input, output, spare, group⟩ := w
    cases group with
    | none => exact .done
    | some group => exact .call fun _ _ _ _ _ => .done

theorem halts_dropHeld (held : Option Descriptor) : Prog.Halts (noted reaper) (dropHeld held) := by
  cases held with
  | none => exact Prog.halts_pure _
  | some d => exact Prog.halts_bind (Prog.halts_perform _) fun _ => Prog.halts_pure _

theorem halts_spawnStages (group : Option Pid) (held : Option Descriptor) (stages : List Invocation) :
    Prog.Halts (noted reaper) (spawnStages group held stages) := by
  induction stages generalizing group held with
  | nil => exact Prog.halts_pure _
  | cons stage rest ih =>
    have drops : ∀ (d : Option Descriptor) {α : Type} {p : Prog α}, Prog.Halts (noted reaper) p →
        Prog.Halts (noted reaper) (dropHeld d >>= fun _ => p) := fun d _ _ hp =>
      Prog.halts_bind (halts_dropHeld d) fun _ => hp
    cases rest with
    | nil =>
      refine Prog.halts_bind (halts_start _ _) ?_
      rintro (e | pid)
      · exact drops held (Prog.halts_pure _)
      · exact drops held (Prog.halts_pure _)
    | cons next rest =>
      refine Prog.halts_bind (Prog.halts_perform .pipe) ?_
      rintro (e | ⟨reader, writer⟩)
      · exact drops held (Prog.halts_pure _)
      · refine Prog.halts_bind (halts_start _ _) ?_
        rintro (e | pid)
        · exact drops (some reader) (drops (some writer) (drops held (Prog.halts_pure _)))
        · exact drops held (drops (some writer) (Prog.halts_bind (ih _ _) fun _ => Prog.halts_pure _))

theorem halts_abandon (pids : List Pid) : Prog.Halts (noted reaper) (abandon pids) := by
  induction pids with
  | nil => exact Prog.halts_pure _
  | cons pid pids ih =>
    exact Prog.halts_bind (Prog.halts_perform _) fun _ => Prog.halts_bind (halts_waitFor pid) fun _ => ih

theorem halts_spawn (grouped : Bool) (stages : List Invocation) :
    Prog.Halts (noted reaper) (spawn grouped stages) := by
  refine Prog.halts_bind (halts_spawnStages _ _ _) ?_
  rintro ⟨pids, _ | f⟩
  · exact Prog.halts_pure _
  · exact Prog.halts_bind (halts_abandon pids) fun _ => Prog.halts_pure _

theorem halts_background (text : Text) (stages : List Invocation) :
    Prog.Halts (noted reaper) (background text stages) := by
  refine Prog.halts_bind (Prog.halts_perform _) fun table => Prog.halts_bind (halts_spawn _ _) ?_
  rintro (f | _ | ⟨first, rest⟩)
  · exact Prog.halts_bind (Prog.halts_perform _) fun _ => Prog.halts_pure _
  · exact Prog.halts_bind (Prog.halts_perform _) fun _ => Prog.halts_pure _
  · exact Prog.halts_bind (Prog.halts_perform _) fun _ => Prog.halts_pure _

theorem halts_foreground (stages : List Invocation) : Prog.Halts (noted reaper) (foreground stages) := by
  refine Prog.halts_bind (halts_spawn _ _) ?_
  rintro (f | pids)
  · exact Prog.halts_pure _
  · refine Prog.halts_bind (halts_waitAll pids) ?_
    rintro (f | statuses) <;> exact Prog.halts_pure _

theorem halts_launch (p : Pipeline) : Prog.Halts (noted reaper) (launch p) := by
  unfold launch
  split
  · exact Prog.halts_pure _
  · split
    · exact Prog.halts_pure _
    · split
      · exact halts_background _ _
      · exact halts_foreground _

end Launch

/-! ### Builtins -/

theorem halts_update {α : Type} (f : JobTable → α × JobTable) :
    Prog.Halts (noted reaper) (Registry.update f) :=
  Prog.halts_bind (Prog.halts_perform _) fun _ => Prog.halts_bind (Prog.halts_perform _) fun _ => Prog.halts_pure _

theorem halts_setForeground (group : Pid) : Prog.Halts (noted reaper) (Terminal.setForeground group) :=
  Prog.halts_bind (Prog.halts_perform _) fun _ => Prog.halts_bind (Prog.halts_perform _) fun _ =>
    Prog.halts_bind (Prog.halts_perform _) fun _ => Prog.halts_pure _

namespace Builtin
open JobShell.Builtin

theorem halts_printLine (line : Text) : Prog.Halts (noted reaper) (printLine line).run := by
  refine Prog.halts_bind (Prog.halts_perform _) ?_
  rintro (e | _) <;> exact Prog.halts_pure _

theorem halts_resume (b : Builtin) (group : Pid) : Prog.Halts (noted reaper) (b.resume group).run := by
  refine Prog.halts_bind (Prog.halts_perform _) ?_
  rintro (e | _)
  · dsimp only
    split <;> exact Prog.halts_pure _
  · exact Prog.halts_pure _

theorem halts_findJob (b : Builtin) (args : List Text) : Prog.Halts (noted reaper) (b.findJob args).run := by
  refine Prog.halts_run_bind (Prog.halts_pure _) fun id =>
    Prog.halts_run_bind (Prog.halts_lift (halts_update fun table => (table.find? id, table))) ?_
  rintro (_ | job) <;> exact Prog.halts_pure _

theorem halts_listJobs : Prog.Halts (noted reaper) listJobs.run := by
  refine Prog.halts_run_bind (Prog.halts_lift (halts_update fun table => (table.jobs, table))) fun jobs => ?_
  induction jobs with
  | nil => exact Prog.halts_pure _
  | cons job jobs ih => exact Prog.halts_run_bind (halts_printLine _) fun _ => ih

theorem halts_changeDirectory (args : List Text) : Prog.Halts (noted reaper) (changeDirectory args).run := by
  unfold changeDirectory
  split
  · split
    · exact Prog.halts_pure _
    · refine Prog.halts_bind (Prog.halts_perform _) ?_
      rintro (e | _) <;> exact Prog.halts_pure _
  · exact Prog.halts_pure _

theorem halts_foreground (args : List Text) : Prog.Halts (noted reaper) (foreground args).run := by
  have sometimes : ∀ (b : Bool) {α β : Type} {p : Prog α} {q : Action β}, Prog.Halts (noted reaper) p →
      Prog.Halts (noted reaper) q.run → Prog.Halts (noted reaper)
        (if b = true then (do let _ ← ExceptT.lift p; q) else q : Action β).run := by
    intro b α β p q hp hq
    split
    · exact Prog.halts_run_bind (Prog.halts_lift hp) fun _ => hq
    · exact hq
  refine Prog.halts_run_bind (halts_findJob _ _) fun job => Prog.halts_run_bind (halts_printLine _) fun _ =>
    Prog.halts_run_bind (Prog.halts_lift (Prog.halts_perform _)) fun terminal =>
    sometimes terminal (halts_setForeground _) (Prog.halts_run_bind (halts_resume _ _) fun _ =>
    Prog.halts_run_bind (Prog.halts_lift (halts_waitFor _)) fun status => sometimes terminal
    (Prog.halts_bind (Prog.halts_perform _) fun _ => halts_setForeground _)
    (Prog.halts_run_bind (Prog.halts_lift (halts_update _)) fun _ => ?_))
  cases status <;> exact Prog.halts_pure _

theorem halts_run (b : Builtin) (args : List Text) : Prog.Halts (noted reaper) (b.run args).run := by
  cases b with
  | exit => exact Prog.halts_pure _
  | cd => exact Prog.halts_run_bind (halts_changeDirectory args) fun _ => Prog.halts_pure _
  | jobs => exact Prog.halts_run_bind halts_listJobs fun _ => Prog.halts_pure _
  | fg => exact Prog.halts_run_bind (halts_foreground args) fun _ => Prog.halts_pure _
  | bg =>
    exact Prog.halts_run_bind (Prog.halts_run_bind (halts_findJob _ _) fun _ => halts_resume _ _) fun _ =>
      Prog.halts_pure _

end Builtin

/-! ### Lines -/

theorem halts_launchLine (p : Pipeline) : Prog.Halts (noted reaper) (Shell.launchLine p).run := by
  refine Prog.halts_run_bind (Launch.halts_launch p) ?_
  rintro (statuses | job)
  · exact Prog.halts_pure _
  · exact Prog.halts_run_bind (Builtin.halts_printLine _) fun _ => Prog.halts_pure _

theorem halts_eval (shell : Shell) (line : Text) : Prog.Halts (noted reaper) (shell.eval line) := by
  refine Prog.halts_bind ?_ fun _ => Prog.halts_pure _
  unfold Shell.obey
  split
  · exact Prog.halts_pure _
  · split
    · exact Prog.halts_pure _
    · split
      · exact Prog.halts_run_bind (Builtin.halts_run _ _) fun _ => Prog.halts_pure _
      · exact Prog.halts_run_bind (halts_launchLine _) fun _ => Prog.halts_pure _

end JobShell.Estate
