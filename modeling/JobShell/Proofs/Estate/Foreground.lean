import JobShell.Proofs.Estate.Spawning
import JobShell.Proofs.Launch.Foreground

/-! # The statuses of a pipeline in the foreground

Without a reaper, the end of each stage is what the wait for it tells. The waits are made in the order of the stages,
whatever the order in which the stages end, and each goes on until its stage has ended. -/

namespace JobShell.Estate
open Children (Ending Phase)

variable {reaper : Prop} {s s' s₀ : State} {k : State × List Noted} {mine : Set Pid} {d : Descriptors.Table}

/-- The child has ended by an exit code or by a signal that has a name. -/
def Usual (e : Ending) : Prop := ∀ n, e = .signaled n → n.val ≤ 31

/-- The note that the end of a child was collected. -/
def collectedNote (x : Pid × Ending) : Noted := .collected x.1 x.2

/-- All stages were forked, in their order, and the waits for them have told these ends, which are these statuses. -/
def Told (n : Nat) (new : List Noted) (ends : List (Pid × Ending)) (statuses : List Status) : Prop :=
  ∃ made, Spawning n made (ends.map Prod.fst) none ∧ new = made ++ ends.map collectedNote ∧
    ends.map (fun x => x.2.status?) = statuses.map some

/-- The last status is that of the last end: its code is the exit code, or 128 and the number of the signal. -/
theorem Told.last {n : Nat} {new : List Noted} {ends : List (Pid × Ending)} {statuses : List Status} {last : Status}
    (h : Told n new ends statuses) (hlast : statuses.getLast? = some last) :
    ∃ pid e, ends.getLast? = some (pid, e) ∧ last.code = match e with
      | .exited code => code
      | .signaled n => 128 + n.val := by
  obtain ⟨-, -, -, hstatuses⟩ := h
  have hmap : (ends.map fun x => x.2.status?).getLast? = some (some last) := by
    rw [hstatuses, List.getLast?_map, hlast, Option.map_some]
  rw [List.getLast?_map] at hmap
  obtain ⟨⟨pid, e⟩, hend, hstatus⟩ := Option.map_eq_some_iff.mp hmap
  refine ⟨pid, e, hend, ?_⟩
  rw [Ending.code_of_status? hstatus]
  cases e <;> rfl

/-- The stages have told their statuses, and none of them is left. Other children were not collected, and the job table
is as before. -/
structure Served (s : State) (n : Nat) (new : List Noted) (statuses : List Status) (s' : State) : Prop where
  stages : ∃ ends, Told n new ends statuses ∧ ∀ x ∈ ends, s'.children x.1 = none
  others : ∀ pid, s.children pid ≠ none → s'.children pid ≠ none
  table : s'.table = s.table

theorem Served.length {n : Nat} {new : List Noted} {statuses : List Status} (h : Served s n new statuses s') :
    statuses.length = n := by
  obtain ⟨ends, ⟨made, hmade, -, hstatuses⟩, -⟩ := h.stages
  have hlength := congrArg List.length hstatuses
  rw [List.length_map, List.length_map] at hlength
  rw [← hlength, ← hmade.length, List.length_map]

theorem Served.drifts {n : Nat} {new : List Noted} {statuses : List Status} {s₁ : State} (hr : ¬ reaper)
    (h : Served s n new statuses s₁) (hd : (world reaper).Drifts s₁ s') : Served s n new statuses s' where
  stages :=
    let ⟨ends, htold, hgone⟩ := h.stages
    ⟨ends, htold, fun x hx => drifts_childless hd (hgone x hx)⟩
  others pid hpid := drifts_there hd hr (h.others pid hpid)
  table := (drifts_table hd hr).trans h.table

theorem ensures_waitAll {pids : List Pid} (hr : ¬ reaper) (h : Stands reaper s₀ mine d k.1) (hnodup : pids.Nodup)
    (hmem : ∀ pid ∈ pids, pid ∈ mine) : (waitAll pids).Ensures (contract reaper) (fun r k' => ∃ ends,
      Children.Waited pids ends r ∧ k'.2 = k.2 ++ ends.map collectedNote ∧
      Stands reaper s₀ (mine \ {q | q ∈ ends.map Prod.fst}) d k'.1 ∧
      ∀ q, q ∈ ends.map Prod.fst ∨ k.1.children q = none → k'.1.children q = none) k := by
  induction pids generalizing mine k with
  | nil => exact Prog.ensures_pure ⟨[], .all rfl (by simp), (List.append_nil _).symm, by simpa using h, by simp⟩
  | cons pid pids ih =>
    obtain ⟨hpid, hrest⟩ := List.forall_mem_cons.mp hmem
    obtain ⟨hnot, hnodup⟩ := List.nodup_cons.mp hnodup
    refine Prog.ensures_bind ((ensures_waitFor_mine h (h.pos pid hpid) (.inl hpid)).mono ?_)
    rintro r k₁ ⟨h₁, hgone, ⟨e, -, rfl, hn₁⟩ | ⟨hlost, -, -⟩⟩
    · rw [Ending.waited]
      cases he : e.status? with
      | none =>
        obtain ⟨signal, rfl, hsignal⟩ := Children.Ending.status?_eq_none_iff.mp he
        have hfirst : Children.Waited (pid :: pids) ([] ++ [(pid, .signaled signal)]) _ := .failed rfl (by simp) hsignal
        exact Prog.ensures_pure ⟨_, hfirst, hn₁, by simpa using h₁, by simpa using hgone⟩
      | some status =>
        refine Prog.ensures_bind ((ih h₁ hnodup fun q hq => ⟨hrest q hq, ne_of_mem_of_not_mem hq hnot⟩).mono ?_)
        rintro r k₂ ⟨ends, hw, hn₂, h₂, hgone₂⟩
        have hall : ∃ ends, Children.Waited (pid :: pids) ends (r.map (some status :: ·)) ∧
            k₂.2 = k.2 ++ ends.map collectedNote ∧ Stands reaper s₀ (mine \ {q | q ∈ ends.map Prod.fst}) d k₂.1 ∧
            ∀ q, q ∈ ends.map Prod.fst ∨ k.1.children q = none → k₂.1.children q = none := by
          refine ⟨(pid, e) :: ends, hw.cons he, ?_, ?_, fun q hq => ?_⟩
          · rw [hn₂, hn₁, List.append_assoc]
            rfl
          · rw [List.map_cons, ← sdiff_singleton_sdiff]
            exact h₂
          · by_cases hlater : q ∈ ends.map Prod.fst
            · exact hgone₂ q (.inl hlater)
            · exact hgone₂ q (.inr (hgone q (hq.imp_left fun h => (List.mem_cons.mp h).resolve_right hlater)))
        cases r <;> exact Prog.ensures_pure hall
    · exact absurd (hlost hpid) hr

theorem exists_statuses {ends : List (Pid × Ending)} (h : ∀ x ∈ ends, x.2.status? ≠ none) :
    ∃ statuses : List Status, ends.map (fun x => x.2.status?) = statuses.map some := by
  induction ends with
  | nil => exact ⟨[], rfl⟩
  | cons x ends ih =>
    obtain ⟨hx, hends⟩ := List.forall_mem_cons.mp h
    obtain ⟨status, hstatus⟩ := Option.ne_none_iff_exists'.mp hx
    obtain ⟨statuses, hstatuses⟩ := ih hends
    exact ⟨status :: statuses, by rw [List.map_cons, hstatus, hstatuses, List.map_cons]⟩

/-- No pipe and no process was refused, and whatever child was collected had ended by an exit code or by a signal that
has a name. -/
structure Smooth (new : List Noted) : Prop where
  granted : ∀ f, .refused f ∉ new
  usual : ∀ pid e, .collected pid e ∈ new → Usual e

/-- What a pipeline in the foreground comes to: it fails as something was not smooth, or its answer is that to the
statuses of its stages. -/
def Came {α : Type} (answer : List Status → α) (s : State) (n : Nat) (new : List Noted) (r : Except Failure α)
    (s' : State) : Prop :=
  (∃ f, r = .error f ∧ ¬ Smooth new) ∨ ∃ statuses, r = .ok (answer statuses) ∧ Served s n new statuses s'

theorem ensures_foreground (hr : ¬ reaper) (stages : List Invocation) (k : State × List Noted) :
    (Launch.foreground stages).Ensures (contract reaper) (fun r k' => k'.1.toOwn = k.1.toOwn ∧
      ∃ new, k'.2 = k.2 ++ new ∧
        Came (fun statuses => .foreground (statuses.map some)) k.1 stages.length new r k'.1) k := by
  refine Prog.ensures_bind ((ensures_spawn false stages k).mono ?_)
  rintro (f | pids) k₁ h₁
  · obtain ⟨made, pids, notes, hmade, -, hn₁, hd, -⟩ := h₁
    refine Prog.ensures_pure ⟨drifts_own hd, _, hn₁, .inl ⟨f, rfl, fun hsmooth => ?_⟩⟩
    exact hsmooth.granted f (List.mem_append_left _ hmade.refused_mem)
  · obtain ⟨made, hmade, hn₁, h₁, hnodup⟩ := h₁
    refine Prog.ensures_bind ((ensures_waitAll hr h₁ (hnodup hr) fun pid hpid => hpid).mono ?_)
    rintro r k₂ ⟨ends, hw, hn₂, h₂, hgone⟩
    have hnotes : k₂.2 = k.2 ++ (made ++ ends.map collectedNote) := by rw [hn₂, hn₁, List.append_assoc]
    cases hw with
    | @failed before pid signal after hpids hnamed hsignal =>
      refine Prog.ensures_pure ⟨h₂.own, _, hnotes, .inl ⟨_, rfl, fun hsmooth => ?_⟩⟩
      have husual : Usual (.signaled signal) := hsmooth.usual pid _ <| List.mem_append_right _ <|
        List.mem_map.mpr ⟨(pid, .signaled signal), List.mem_append_right _ List.mem_cons_self, rfl⟩
      exact absurd (husual signal rfl) (by omega)
    | all hpids hnamed =>
      obtain ⟨statuses, hstatuses⟩ := exists_statuses hnamed
      have hd : (world reaper).Drifts k.1 k₂.1 := by
        rw [hpids, Set.sdiff_self] at h₂
        exact h₂.drifts
      refine Prog.ensures_pure ⟨h₂.own, _, hnotes, .inr ⟨statuses, by rw [hstatuses], ⟨ends, ⟨made, hpids ▸ hmade, rfl,
        hstatuses⟩, fun x hx => ?_⟩, fun pid => drifts_there hd hr, drifts_table hd hr⟩⟩
      exact hgone x.1 (.inl (List.mem_map_of_mem hx))

variable {p : Pipeline} {stages : List Invocation}

theorem ensures_launch_foreground (hr : ¬ reaper) (hp : p.background = false) (hne : p.stages ≠ [])
    (hstages : p.stages.mapM Invocation.ofStage = .ok stages) (k : State × List Noted) :
    (launch p).Ensures (contract reaper) (fun r k' => k'.1.toOwn = k.1.toOwn ∧ ∃ new, k'.2 = k.2 ++ new ∧
      Came (fun statuses => .foreground (statuses.map some)) k.1 p.stages.length new r k'.1) k := by
  have hlength : stages.length = p.stages.length := (mapM_eq_ok_iff.mp hstages).length_eq.symm
  have hlaunch : launch p = Launch.foreground stages := by
    unfold launch
    rw [if_neg (mt List.isEmpty_iff.mp hne), hstages]
    exact if_neg (by rw [hp]; exact Bool.false_ne_true)
  rw [hlaunch, ← hlength]
  exact ensures_foreground hr stages k

theorem ensures_launchLine_foreground (hr : ¬ reaper) (hp : p.background = false) (hne : p.stages ≠ [])
    (hstages : p.stages.mapM Invocation.ofStage = .ok stages) (k : State × List Noted) :
    (Shell.launchLine p).run.Ensures (contract reaper) (fun r k' => k'.1.toOwn = k.1.toOwn ∧
      ∃ new, k'.2 = k.2 ++ new ∧ Came List.getLast? k.1 p.stages.length new r k'.1) k := by
  refine Prog.ensures_run_bind ((ensures_launch_foreground hr hp hne hstages k).mono ?_)
  rintro r k' ⟨hown, new, hnew, ⟨f, rfl, hf⟩ | ⟨statuses, rfl, hs⟩⟩
  · exact ⟨hown, new, hnew, .inl ⟨f, rfl, hf⟩⟩
  · refine Prog.ensures_pure ⟨hown, new, hnew, .inr ⟨statuses, ?_, hs⟩⟩
    rw [Launched.last?, List.getLast?_map]
    cases statuses.getLast? <;> rfl

/-- Without a reaper, whatever way the stages end in and in whichever order, and however often the waits are disturbed: a
pipeline in the foreground comes to an end. If no pipe and no process is refused and no stage is ended by a signal without
a name, the launch answers one status for each stage, that of the stage's own end, and all stages are collected. No other
child is, and the job table is as before. A line that asks for the pipeline then has the last stage's status: its exit
code, or 128 and the number of its signal. -/
theorem foreground_statuses (hp : p.background = false) (hne : p.stages ≠ [])
    (hstages : p.stages.mapM Invocation.ofStage = .ok stages) (s : State) (notes : List Noted) :
    Prog.Concludes (noted False) (fun r k' => ∃ new, k'.2 = notes ++ new ∧ (Smooth new →
      ∃ statuses, statuses.length = p.stages.length ∧ Served s p.stages.length new statuses k'.1 ∧
        r = .ok (.foreground (statuses.map some)))) (s, notes) (launch p) ∧
    ∀ (shell : Shell) (line : Text), Pipeline.parse shell.limits line = .ok p → p.command = .external p →
      Prog.Concludes (noted False) (fun r k' => ∃ new, k'.2 = notes ++ new ∧ (Smooth new →
        ∃ statuses last, Served s p.stages.length new statuses k'.1 ∧ statuses.getLast? = some last ∧
          r = (.ok .proceed, { shell with status := last.code }) ∧
          ∃ ends pid e, Told p.stages.length new ends statuses ∧ ends.getLast? = some (pid, e) ∧
            last.code = match e with
              | .exited code => code
              | .signaled n => 128 + n.val))
        (s, notes) (shell.eval line) := by
  constructor
  · refine ((Launch.halts_launch p (s, notes)).concludes .refl
      (ensures_launch_foreground not_false hp hne hstages (s, notes))).mono ?_
    rintro r k' ⟨k₁, hk, -, new, hn₁, hcame⟩
    obtain ⟨hd, hn⟩ := Surroundings.noting_drifts_iff.mp hk
    refine ⟨new, hn.trans hn₁, fun hsmooth => ?_⟩
    obtain ⟨f, -, hf⟩ | ⟨statuses, rfl, hs⟩ := hcame
    · exact absurd hsmooth hf
    · exact ⟨statuses, hs.length, hs.drifts not_false hd, rfl⟩
  · intro shell line hparse hcommand
    have heval : (shell.eval line).Ensures (contract False) (fun r k' => ∃ new, k'.2 = notes ++ new ∧ (Smooth new →
        ∃ statuses last, Served s p.stages.length new statuses k'.1 ∧ statuses.getLast? = some last ∧
          r = (.ok .proceed, { shell with status := last.code }))) (s, notes) := by
      refine Shell.ensures_eval_external_of hparse hcommand hne
        ((ensures_launchLine_foreground not_false hp hne hstages (s, notes)).mono ?_)
      rintro r k' ⟨-, new, hnew, hcame⟩
      refine ⟨new, hnew, fun hsmooth => ?_⟩
      obtain ⟨f, -, hf⟩ | ⟨statuses, rfl, hs⟩ := hcame
      · exact absurd hsmooth hf
      · have hnonempty : statuses ≠ [] := List.ne_nil_of_length_pos (hs.length ▸ List.length_pos_iff.mpr hne)
        refine ⟨statuses, statuses.getLast hnonempty, hs, List.getLast?_eq_some_getLast hnonempty, ?_⟩
        rw [List.getLast?_eq_some_getLast hnonempty]
        rfl
    refine ((halts_eval shell line (s, notes)).concludes .refl heval).mono ?_
    rintro r k' ⟨k₁, hk, new, hn₁, hall⟩
    obtain ⟨hd, hn⟩ := Surroundings.noting_drifts_iff.mp hk
    refine ⟨new, hn.trans hn₁, fun hsmooth => ?_⟩
    obtain ⟨statuses, last, hs, hlast, rfl⟩ := hall hsmooth
    obtain ⟨ends, htold, -⟩ := hs.stages
    obtain ⟨pid, e, hend, hcode⟩ := htold.last hlast
    exact ⟨statuses, last, hs.drifts not_false hd, hlast, rfl, ends, pid, e, htold, hend, hcode⟩

/-! ### Two stages, the second of which ends first -/

open Children (twoStages)

/-- Another child is running, and one wait will be disturbed. -/
def oneDisturbance : State where
  descriptors := fun _ => none
  held := false
  directory := 0
  output := []
  environment := []
  children := Function.update (fun _ => none) 70 (some .running)
  table := .empty
  disturbances := 1

def killedEnd : Ending := .signaled ⟨9, by decide⟩

def twoStageNotes : List Noted :=
  [.pipe, .forked 71, .forked 72, .collected 71 (.exited 3), .collected 72 killedEnd]

theorem reaches_twoStages : ∃ s, Prog.Reaches (noted False) ((oneDisturbance, []), launch twoStages)
    ((s, twoStageNotes), .done (.ok (.foreground [some (.exited 3), some (.signaled .kill)]))) := by
  have h : Prog.Reaches (noted False) ((oneDisturbance, []), launch twoStages) _ := .refl
  replace h := h.tail (step_call .pipe (.ok (3, 4)) ⟨by decide, rfl, rfl, 0, rfl⟩)
  replace h := h.tail (step_call .fork (.ok (.parent 71)) ⟨by decide, rfl, rfl⟩)
  replace h := h.tail (step_call (.close 4) (.ok ()) rfl)
  replace h := h.tail (step_call .fork (.ok (.parent 72)) ⟨by decide, rfl, rfl⟩)
  replace h := h.tail (step_call (.close 3) (.ok ()) rfl)
  replace h := h.tail (step_drift (@Drift.ends _ _ 72 killedEnd rfl))
  replace h := h.tail .unroll
  replace h := h.tail (step_call (.wait 71 true) (.error .interrupted) (.inl ⟨rfl, 0, rfl, rfl⟩))
  replace h := h.tail .unroll
  replace h := h.tail (step_drift (@Drift.ends _ _ 71 (.exited 3) rfl))
  replace h := h.tail (step_call (.wait 71 true) (.ok (.exited 71 3))
    (.inl ⟨71, .exited 3, fun _ => rfl, rfl, ⟨rfl, rfl⟩, rfl⟩))
  replace h := h.tail .unroll
  replace h := h.tail (step_call (.wait 72 true) (.ok (.signaled 72 9 false))
    (.inl ⟨72, killedEnd, fun _ => rfl, rfl, ⟨rfl, _, rfl, rfl⟩, rfl⟩))
  exact ⟨_, h⟩

theorem smooth_twoStages : Smooth twoStageNotes where
  granted f := by simp [twoStageNotes]
  usual pid e h := by
    rintro n rfl
    obtain ⟨-, hn⟩ : pid = 72 ∧ Ending.signaled n = killedEnd := by simpa [twoStageNotes] using h
    cases hn
    decide

def calmShell : Shell := ⟨⟨10, 63⟩, 0⟩

theorem foreground_statuses_twoStages : ∃ s, twoStages.background = false ∧ twoStages.stages ≠ [] ∧
    twoStages.stages.mapM Invocation.ofStage = .ok [⟨[[97]], none, none⟩, ⟨[[98]], none, none⟩] ∧
    Pipeline.parse calmShell.limits ['a', '|', 'b'] = .ok twoStages ∧ twoStages.command = .external twoStages ∧
    Prog.Reaches (noted False) ((oneDisturbance, []), launch twoStages)
      ((s, twoStageNotes), .done (.ok (.foreground [some (.exited 3), some (.signaled .kill)]))) ∧
    Served oneDisturbance 2 twoStageNotes [.exited 3, .signaled .kill] s ∧
    Prog.Reaches (noted False) ((oneDisturbance, []), calmShell.eval ['a', '|', 'b'])
      ((s, twoStageNotes), .done (.ok .proceed, { calmShell with status := 137 })) ∧
    ∃ statuses last, Served oneDisturbance 2 twoStageNotes statuses s ∧ statuses.getLast? = some last ∧
      last.code = 137 ∧ ∃ ends pid e, Told 2 twoStageNotes ends statuses ∧ ends.getLast? = some (pid, e) ∧
        137 = match e with
          | .exited code => code
          | .signaled n => 128 + n.val := by
  have hne : twoStages.stages ≠ [] := List.cons_ne_nil _ _
  have hstages : twoStages.stages.mapM Invocation.ofStage = .ok [⟨[[97]], none, none⟩, ⟨[[98]], none, none⟩] := rfl
  have hparse : Pipeline.parse calmShell.limits ['a', '|', 'b'] = .ok twoStages := rfl
  obtain ⟨s, hrun⟩ := reaches_twoStages
  have hlaunchLine : Prog.Reaches (noted False) ((oneDisturbance, []), (Shell.launchLine twoStages).run)
      ((s, twoStageNotes), .done (.ok (some (.signaled .kill)))) := hrun.bind (ExceptT.bindCont _)
  have hobey : Prog.Reaches (noted False) ((oneDisturbance, []), (Shell.obey calmShell.limits ['a', '|', 'b']).run)
      ((s, twoStageNotes), .done (.ok (.proceed, some (.signaled .kill)))) := hlaunchLine.bind (ExceptT.bindCont _)
  have hline : Prog.Reaches (noted False) ((oneDisturbance, []), calmShell.eval ['a', '|', 'b'])
      ((s, twoStageNotes), .done (.ok .proceed, { calmShell with status := 137 })) := hobey.bind _
  obtain ⟨hlaunch, heval⟩ := foreground_statuses rfl hne hstages oneDisturbance []
  obtain ⟨_, rfl, hlaunched⟩ := hlaunch.ends hrun
  obtain ⟨statuses, -, hserved, hr⟩ := hlaunched smooth_twoStages
  have hmap : statuses.map some = [.exited 3, .signaled .kill].map some := by simpa using hr.symm
  obtain rfl : statuses = [.exited 3, .signaled .kill] := (List.map_inj_right fun _ _ => Option.some.inj).mp hmap
  obtain ⟨_, rfl, hevaluated⟩ := (heval calmShell _ hparse rfl).ends hline
  obtain ⟨statuses, last, hserved', hlast, hr', ends, pid, e, htold, hend, he⟩ := hevaluated smooth_twoStages
  have hcode : last.code = 137 := by simpa [calmShell, eq_comm] using hr'
  exact ⟨s, rfl, hne, hstages, hparse, rfl, hrun, hserved, hline, statuses, last, hserved', hlast, hcode, ends, pid, e,
    htold, hend, hcode.symm.trans he⟩

end JobShell.Estate
