import JobShell.Proofs.Estate.Tables
import JobShell.Proofs.Pipeline.Routing

/-! # Builtins in a pipe

A line that is launched leaves the interpreter's directory as it is, sends no signal to a group, and writes at most the
line that announces a job: a builtin in a pipe is a program like any other. -/

namespace JobShell.Estate
open Children (Ending)

variable {reaper : Prop} {k k' k'' : State × List Noted} {pid : Pid}

/-! ### What a launch does to the interpreter -/

/-- The interpreter's own state is as before, and no signal was sent to a group. -/
structure Untouched (k k' : State × List Noted) : Prop where
  own : k'.1.toOwn = k.1.toOwn
  groups : ∃ new, k'.2 = k.2 ++ new ∧ ∀ group n, .killedGroup group n ∉ new

theorem Untouched.refl (k : State × List Noted) : Untouched k k :=
  ⟨rfl, [], (List.append_nil _).symm, fun _ _ => List.not_mem_nil⟩

theorem Untouched.trans (h : Untouched k k') (h' : Untouched k' k'') : Untouched k k'' where
  own := h'.own.trans h.own
  groups := by
    obtain ⟨new, hnew, hgroups⟩ := h.groups
    obtain ⟨new', hnew', hgroups'⟩ := h'.groups
    refine ⟨new ++ new', by rw [hnew', hnew, List.append_assoc], fun group n hmem => ?_⟩
    rcases List.mem_append.mp hmem with hmem | hmem
    · exact hgroups group n hmem
    · exact hgroups' group n hmem

theorem Spawning.not_killedGroup {n : Nat} {made : List Noted} {pids : List Pid} {f : Option Failure}
    (h : Spawning n made pids f) (group : Pid) (signal : Nat) : .killedGroup group signal ∉ made := by
  induction h with
  | next pid _ ih => simpa using ih
  | _ => simp

theorem Abandoning.not_killedGroup {pids : List Pid} {notes : List Noted} (h : Abandoning reaper pids notes)
    (group : Pid) (signal : Nat) : .killedGroup group signal ∉ notes := by
  induction h with
  | nil => exact List.not_mem_nil
  | collected _ _ _ ih => simpa using ih
  | lost _ _ _ ih => simpa using ih

theorem not_killedGroup_spawned {n : Nat} {made notes : List Noted} {pids : List Pid} {f : Option Failure}
    (hmade : Spawning n made pids f) (habandon : Abandoning reaper pids notes) (group : Pid) (signal : Nat) :
    .killedGroup group signal ∉ made ++ notes := by
  intro hmem
  rcases List.mem_append.mp hmem with hmem | hmem
  · exact hmade.not_killedGroup group signal hmem
  · exact habandon.not_killedGroup group signal hmem

theorem ensures_spawn_untouched (grouped : Bool) (stages : List Invocation) (k : State × List Noted) :
    (Launch.spawn grouped stages).Ensures (contract reaper) (fun _ k' => Untouched k k') k := by
  refine (ensures_spawn grouped stages k).mono ?_
  rintro (f | pids) k' h
  · obtain ⟨made, pids, notes, hmade, habandon, hn, hd, -⟩ := h
    exact ⟨drifts_own hd, _, hn, not_killedGroup_spawned hmade habandon⟩
  · obtain ⟨made, hmade, hn, h, -⟩ := h
    exact ⟨h.own, made, hn, hmade.not_killedGroup⟩

theorem ensures_waitFor_untouched (pid : Pid) (k : State × List Noted) :
    (waitFor pid).Ensures (contract reaper) (fun _ k' => Untouched k k') k := by
  refine (ensures_waitFor pid k).mono ?_
  rintro _ _ ⟨s, hs, _ | _⟩
  · exact ⟨show s.toOwn = k.1.toOwn from drifts_own hs, _, rfl, fun _ _ => by simp⟩
  · exact ⟨drifts_own hs, [], (List.append_nil _).symm, fun _ _ => List.not_mem_nil⟩

theorem ensures_waitAll_untouched (pids : List Pid) (k : State × List Noted) :
    (waitAll pids).Ensures (contract reaper) (fun _ k' => Untouched k k') k :=
  ensures_waitAll_of_each (Untouched k) (.refl k) fun pid _ k₁ h₁ =>
    (ensures_waitFor_untouched pid k₁).mono fun _ _ h₂ => h₁.trans h₂

/-- The job has been put into the table: it has the next id, the last process that was forked leads it, and the first
leads its group. Only a reaper can have taken it out again. -/
structure Starts (reaper : Prop) (k : State × List Noted) (job : Job) (k' : State × List Noted) : Prop where
  id : job.id = k.1.table.lastId + 1
  processes : ∃ new, k'.2 = k.2 ++ new ∧ (new.filterMap Noted.forked?).head? = some job.group ∧
    (new.filterMap Noted.forked?).getLast? = some job.pid
  lastId : k'.1.table.lastId = job.id
  listed : ¬ reaper → k'.1.table.jobs.head? = some job

theorem Starts.drifts {job : Job} {s : State} (h : Starts reaper k job k') (hd : (world reaper).Drifts k'.1 s) :
    Starts reaper k job (s, k'.2) where
  id := h.id
  processes := h.processes
  lastId := (drifts_lastId hd).trans h.lastId
  listed hr := (congrArg (·.jobs.head?) (drifts_table hd hr)).trans (h.listed hr)

theorem Starts.later {job : Job} (h : Starts reaper k job k') {later : List Noted} (htable : k''.1.table = k'.1.table)
    (hnotes : k''.2 = k'.2 ++ later) (hlater : later.filterMap Noted.forked? = []) : Starts reaper k job k'' where
  id := h.id
  processes := by
    obtain ⟨new, hnew, hfirst, hlast⟩ := h.processes
    have hforked : (new ++ later).filterMap Noted.forked? = new.filterMap Noted.forked? := by
      rw [List.filterMap_append, hlater, List.append_nil]
    exact ⟨new ++ later, by rw [hnotes, hnew, List.append_assoc], hforked ▸ hfirst, hforked ▸ hlast⟩
  lastId := htable ▸ h.lastId
  listed hr := htable ▸ h.listed hr

theorem Begun.starts {text : Text} {n : Nat} {r : Except Failure Launched} {job : Job} (h : Begun reaper text n k r k')
    (hr : r = .ok (.background job)) : Starts reaper k job k' := by
  cases h with
  | @started s s₁ made first rest hs hmade h =>
    cases hr
    have hid : s.table.lastId + 1 = k.1.table.lastId + 1 := congrArg (· + 1) (drifts_lastId hs)
    refine ⟨hid, ⟨made, rfl, ?_, ?_⟩, rfl, fun _ => rfl⟩
    · rw [hmade.forked]
      rfl
    · rw [hmade.forked]
      exact List.getLast?_eq_some_getLast _
  | refused => cases hr

theorem ensures_background_untouched (hk : k.1.held = false) (text : Text) {stages : List Invocation}
    (hne : stages ≠ []) : (Launch.background text stages).Ensures (contract reaper) (fun r k' => Untouched k k' ∧
      ∀ job, r = .ok (.background job) → Starts reaper k job k') k := by
  -- While the interpreter has the table, its state is otherwise the same.
  have released : ∀ {s s₁ : State}, (world reaper).Drifts k.1 s → s₁.toOwn = { s.toOwn with held := true } →
      { s₁.toOwn with held := false } = k.1.toOwn := fun hs hown => by
    rw [hown, drifts_own hs, ← hk]
  refine (ensures_background_begun hk text hne).mono fun r k' h => ⟨?_, fun job => h.starts⟩
  rcases h with ⟨hs, hmade, h⟩ | ⟨hmade, habandon, hd⟩
  · exact ⟨released hs h.own, _, rfl, hmade.not_killedGroup⟩
  · exact ⟨drifts_own hd, _, rfl, not_killedGroup_spawned hmade habandon⟩

theorem ensures_foreground_untouched (stages : List Invocation) (k : State × List Noted) :
    (Launch.foreground stages).Ensures (contract reaper) (fun r k' => Untouched k k' ∧
      ∀ job, r ≠ .ok (.background job)) k := by
  refine Prog.ensures_bind ((ensures_spawn_untouched false stages k).mono ?_)
  rintro (f | pids) k₁ h₁
  · exact Prog.ensures_pure ⟨h₁, fun _ he => by cases he⟩
  · refine Prog.ensures_bind ((ensures_waitAll_untouched pids k₁).mono ?_)
    rintro (f | statuses) k₂ h₂
    · exact Prog.ensures_pure ⟨h₁.trans h₂, fun _ he => by cases he⟩
    · exact Prog.ensures_pure ⟨h₁.trans h₂, fun _ he => by cases he⟩

/-- Only a launch in the background makes a job. -/
theorem ensures_launch_untouched (hk : k.1.held = false) (p : Pipeline) :
    (launch p).Ensures (contract reaper) (fun r k' => Untouched k k' ∧
      ∀ job, r = .ok (.background job) → p.background = true ∧ Starts reaper k job k') k := by
  refine Launch.ensures_launch_of (fun _ => ⟨.refl k, ?_⟩) (fun f _ => ⟨.refl k, ?_⟩) fun stages _ hne _ => ?_
  · intro _ he
    cases he
  · intro _ he
    cases he
  · cases hb : p.background with
    | true =>
      exact (ensures_background_untouched hk p.text hne).mono fun _ _ h => ⟨h.1, fun job he => ⟨rfl, h.2 job he⟩⟩
    | false =>
      exact (ensures_foreground_untouched stages k).mono fun _ _ h => ⟨h.1, fun job he => absurd he (h.2 job)⟩

/-! ### What a launched line does -/

/-- What is left of a line that is launched: the directory is as before, the session goes on, no group was sent a
signal, and nothing is written but the line that announces the job of this line, if it is one in the background and the
output takes it. -/
structure Aside (reaper : Prop) (background : Bool) (k : State × List Noted) (r : Except Failure Flow)
    (k' : State × List Noted) : Prop where
  directory : k'.1.directory = k.1.directory
  stays : ∀ code, r ≠ .ok (.exit code)
  groups : ∃ new, k'.2 = k.2 ++ new ∧ ∀ group n, .killedGroup group n ∉ new
  output : ∃ part, k'.1.output = k.1.output ++ part ∧ (part ≠ [] → background = true ∧ ∃ job, Starts reaper k job k' ∧
    part <+: '[' :: Text.ofNat job.id ++ ']' :: ' ' :: Text.ofInt job.pid ++ ['\n'])

theorem Untouched.aside {background : Bool} {r : Except Failure Flow} (h : Untouched k k')
    (hr : ∀ code, r ≠ .ok (.exit code)) : Aside reaper background k r k' where
  directory := congrArg Own.directory h.own
  stays := hr
  groups := h.groups
  output := ⟨[], (congrArg Own.output h.own).trans (List.append_nil _).symm, fun hne => absurd rfl hne⟩

theorem Untouched.announced {r : Except Failure Flow} {s : State} {job : Job} {printed : Except Failure Unit}
    (h : Untouched k k') (hjob : Starts reaper k job k') (hs : (world reaper).Drifts k'.1 s)
    (hp : Printed (Shell.announcement job ++ ['\n']) s k'.2 printed k'') (hr : ∀ code, r ≠ .ok (.exit code)) :
    Aside reaper true k r k'' := by
  have hown : s.toOwn = k.1.toOwn := (drifts_own hs).trans h.own
  have hdirectory : s.directory = k.1.directory := congrArg Own.directory hown
  have houtput : s.output = k.1.output := congrArg Own.output hown
  have hjob := hjob.drifts hs
  obtain ⟨new, hnew, hgroups⟩ := h.groups
  cases hp with
  | whole =>
    exact ⟨hdirectory, hr, ⟨new, hnew, hgroups⟩, _, congrArg (· ++ _) houtput, fun _ =>
      ⟨rfl, job, hjob.later rfl (List.append_nil _).symm rfl, List.prefix_rfl⟩⟩
  | @muted part f hpart =>
    refine ⟨hdirectory, hr, ⟨new ++ [.muted], ?_, fun group n hmem => ?_⟩, part, congrArg (· ++ _) houtput, fun _ =>
      ⟨rfl, job, hjob.later rfl rfl rfl, hpart⟩⟩
    · rw [hnew, List.append_assoc]
    · exact hgroups group n (by simpa using hmem)

theorem ensures_launchLine_aside (hk : k.1.held = false) (p : Pipeline) :
    (Shell.launchLine p).run.Ensures (contract reaper)
      (fun r k' => Aside reaper p.background k (r.map fun _ => .proceed) k') k := by
  refine Prog.ensures_run_bind ((ensures_launch_untouched hk p).mono ?_)
  rintro (f | statuses | job) k₁ ⟨h₁, hjob⟩
  · exact h₁.aside fun _ he => by cases he
  · exact Prog.ensures_pure (h₁.aside fun _ he => by cases he)
  · obtain ⟨hb, hstarts⟩ := hjob job rfl
    rw [hb]
    refine Prog.ensures_run_bind ((ensures_printLine_printed _ k₁).mono ?_)
    rintro (f | _) k₂ ⟨s, hs, hprinted⟩
    · exact h₁.announced hstarts hs hprinted fun _ he => by cases he
    · exact Prog.ensures_pure (h₁.announced hstarts hs hprinted fun _ he => by cases he)

theorem Aside.drifts {background : Bool} {r : Except Failure Flow} {s : State} (h : Aside reaper background k r k')
    (hd : (world reaper).Drifts k'.1 s) : Aside reaper background k r (s, k'.2) := by
  have hown := drifts_own hd
  obtain ⟨part, hpart, hjob⟩ := h.output
  refine ⟨(congrArg Own.directory hown).trans h.directory, h.stays, h.groups, part,
    (congrArg Own.output hown).trans hpart, fun hne => ?_⟩
  obtain ⟨hb, job, hstarts, hprefix⟩ := hjob hne
  exact ⟨hb, job, hstarts.drifts hd, hprefix⟩

/-- A builtin in a pipe is not run by the interpreter, unless the limits let one stage through and no more: the line
then is what its first stage is. Any other line with a bar asks for its programs. However these behave, with or
without a reaper and whichever calls are refused, the line comes to an end, and it has neither changed the
interpreter's directory nor ended the session, nor continued or listed a job; what it writes announces its own job. -/
theorem piped_line_launched {limits : Limits} {line : Text} {p : Pipeline} (hbar : '|' ∈ line)
    (hp : Pipeline.parse limits line = .ok p) (hne : p.stages ≠ []) :
    (limits.stages ≠ 1 → 2 ≤ p.stages.length ∧ p.command = .external p) ∧
    (limits.stages = 1 → ∃ stage, p.stages = [stage] ∧ ∀ b args,
      p.command = .builtin b args ↔ Builtin.ofName? stage.name = some b ∧ args = stage.args.tail) ∧
    (p.command = .external p → ∀ (reaper : Prop) (shell : Shell) (s : State) (notes : List Noted),
      shell.limits = limits → s.held = false →
        Prog.Concludes (noted reaper) (fun r k' => Aside reaper p.background (s, notes) r.1 k') (s, notes)
          (shell.eval line)) := by
  refine ⟨fun hlimit => ?_, fun hlimit => ?_, fun hcommand reaper shell s notes hlimits hs => ?_⟩
  · have hstages := Pipeline.two_le_length_stages hbar hp hne hlimit
    exact ⟨hstages, Pipeline.command_of_several_stages hstages⟩
  · obtain ⟨stage, hstage⟩ := Pipeline.exists_lone_stage hbar hp hlimit
    exact ⟨stage, hstage, Pipeline.command_of_lone_stage hstage⟩
  · subst hlimits
    have heval : (shell.eval line).Ensures (contract reaper)
        (fun r k' => Aside reaper p.background (s, notes) r.1 k') (s, notes) :=
      Shell.ensures_eval_external_of hp hcommand hne (ensures_launchLine_aside hs p)
    exact concludes_of_ensures (halts_eval shell line) heval fun r k' s' h hd => h.drifts hd

/-! ### An exit in a pipe, and a directory before a bar -/

def exitInPipe : Text := "true | exit 3".toList

def exitStages : Pipeline :=
  ⟨[⟨["true".toList], none, none, by simp⟩, ⟨["exit".toList, "3".toList], none, none, by simp⟩], false⟩

theorem reaches_exitInPipe : ∃ s notes, Prog.Reaches (noted False) ((alone, []), plainShell.eval exitInPipe)
    ((s, notes), .done (.ok .proceed, { plainShell with status := 127 })) := by
  have h : Prog.Reaches (noted False) ((alone, []), plainShell.eval exitInPipe) _ := .refl
  replace h := h.tail (step_call .pipe (.ok (3, 4)) ⟨by decide, rfl, rfl, 0, rfl⟩)
  replace h := h.tail (step_call .fork (.ok (.parent 71)) ⟨by decide, rfl, rfl⟩)
  replace h := h.tail (step_call (.close 4) (.ok ()) rfl)
  replace h := h.tail (step_call .fork (.ok (.parent 72)) ⟨by decide, rfl, rfl⟩)
  replace h := h.tail (step_call (.close 3) (.ok ()) rfl)
  replace h := h.tail (step_drift (@Drift.ends _ _ 71 (.exited 0) rfl))
  replace h := h.tail (step_drift (@Drift.ends _ _ 72 (.exited 127) rfl))
  replace h := h.tail .unroll
  replace h := h.tail (step_call (.wait 71 true) (.ok (.exited 71 0))
    (.inl ⟨71, .exited 0, fun _ => rfl, rfl, ⟨rfl, rfl⟩, rfl⟩))
  replace h := h.tail .unroll
  replace h := h.tail (step_call (.wait 72 true) (.ok (.exited 72 127))
    (.inl ⟨72, .exited 127, fun _ => rfl, rfl, ⟨rfl, rfl⟩, rfl⟩))
  exact ⟨_, _, h⟩

theorem piped_line_launched_exit : ∃ s notes, '|' ∈ exitInPipe ∧
    Pipeline.parse plainShell.limits exitInPipe = .ok exitStages ∧ exitStages.stages ≠ [] ∧
    plainShell.limits.stages ≠ 1 ∧ exitStages.command = .external exitStages ∧ alone.held = false ∧
    Prog.Reaches (noted False) ((alone, []), plainShell.eval exitInPipe)
      ((s, notes), .done (.ok .proceed, { plainShell with status := 127 })) ∧ s.directory = 0 ∧ s.output = [] := by
  have hbar : '|' ∈ exitInPipe := by decide
  have hp : Pipeline.parse plainShell.limits exitInPipe = .ok exitStages := rfl
  have hne : exitStages.stages ≠ [] := List.cons_ne_nil _ _
  have hlimit : plainShell.limits.stages ≠ 1 := by decide
  obtain ⟨hseveral, -, hends⟩ := piped_line_launched hbar hp hne
  obtain ⟨-, hcommand⟩ := hseveral hlimit
  obtain ⟨s, notes, hrun⟩ := reaches_exitInPipe
  have haside := (hends hcommand False plainShell alone [] rfl rfl).ends hrun
  obtain ⟨part, hpart, hjob⟩ := haside.output
  have hempty : part = [] := by
    by_contra hpart
    cases (hjob hpart).1
  refine ⟨s, notes, hbar, hp, hne, hlimit, hcommand, rfl, hrun, haside.directory, ?_⟩
  rw [hpart, hempty]
  rfl

def directoryInPipe : Text := "cd /tmp | cat".toList

/-- With one stage let through, a builtin in a pipe is run by the interpreter. -/
theorem piped_line_not_launched : ∃ p s, '|' ∈ directoryInPipe ∧ Pipeline.parse ⟨1, 63⟩ directoryInPipe = .ok p ∧
    p.stages ≠ [] ∧ p.command = .builtin .cd ["/tmp".toList] ∧ s.directory ≠ alone.directory ∧
    Prog.Reaches (noted False) ((alone, []), Shell.eval ⟨⟨1, 63⟩, 0⟩ directoryInPipe)
      ((s, []), .done (.ok .proceed, ⟨⟨1, 63⟩, 0⟩)) := by
  have h : Prog.Reaches (noted False) ((alone, []), Shell.eval ⟨⟨1, 63⟩, 0⟩ directoryInPipe) _ := .refl
  replace h := h.tail (step_call (.changeDirectory (Text.encode "/tmp".toList)) (.ok ()) ⟨1, rfl⟩)
  exact ⟨⟨[⟨["cd".toList, "/tmp".toList], none, none, by simp⟩], false⟩, { alone with directory := 1 }, by decide, rfl,
    List.cons_ne_nil _ _, rfl, by decide, h⟩

end JobShell.Estate
