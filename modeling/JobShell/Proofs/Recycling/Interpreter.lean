import JobShell.Proofs.Line.Rules
import JobShell.Proofs.Recycling.System

/-! # What the interpreter asks for when pids are used again

A line forks its children before it waits for one of them, and it has the table from its first fork until it adds its
job, or never. It waits for its own children, or for the leader of a job that it has seen, and only what it has waited
for it takes out of the table. -/

namespace JobShell.Recycling
open Threads (Thread)

/-- What the interpreter knows while it evaluates a line. -/
structure Sight where
  /-- The children that were forked, in this order. -/
  forked : List Pid
  held : Option JobTable
  /-- The jobs that were in the table when it was taken. -/
  seen : List Job
  /-- The processes that were waited for, and the answers; there is none if all of that pid had been collected. -/
  waited : List (Pid × Option Status)
  /-- The pids whose jobs were taken out of the table. -/
  dropped : List Pid
  /-- A job was added. -/
  added : Bool

namespace Sight

def begun : Sight := ⟨[], none, [], [], [], false⟩

def forks (k : Sight) (pids : List Pid) : Sight := { k with forked := k.forked ++ pids }

def hears (k : Sight) (answers : List (Pid × Option Status)) : Sight := { k with waited := k.waited ++ answers }

def takes (k : Sight) (t : JobTable) : Sight := { k with held := some t, seen := k.seen ++ t.jobs }

def gives (k : Sight) : Sight := { k with held := none }

def drops (k : Sight) (pid : Pid) : Sight := { k.gives with dropped := pid :: k.dropped }

def adds (k : Sight) : Sight := { k.gives with added := true }

/-- The interpreter may wait for the process: it is of this line, or the line waits for a job. -/
def Awaitable (k : Sight) (pid : Pid) : Prop :=
  k.added = false ∧ (pid ∈ k.forked ∨ k.forked = [] ∧ ∃ job ∈ k.seen, job.pid = pid)

theorem forks_nil (k : Sight) : k.forks [] = k := by
  simp only [forks, List.append_nil]

theorem forks_forks (k : Sight) (pids pids' : List Pid) : (k.forks pids).forks pids' = k.forks (pids ++ pids') := by
  simp only [forks, List.append_assoc]

theorem hears_nil (k : Sight) : k.hears [] = k := by
  simp only [hears, List.append_nil]

theorem hears_hears (k : Sight) (answers answers' : List (Pid × Option Status)) :
    (k.hears answers).hears answers' = k.hears (answers ++ answers') := by
  simp only [hears, List.append_assoc]

end Sight

/-- In which form the interpreter may give a table back, and what it knows then. -/
inductive GivesBack (k : Sight) (t : JobTable) : JobTable → Sight → Prop
  | same : GivesBack k t t k.gives
  | removes {pid : Pid} (hf : k.forked = []) (hw : pid ∈ k.waited.map Prod.fst) :
      GivesBack k t (t.remove pid).2 (k.drops pid)
  | adds {leader : Pid} (group : Pid) (text : Text) (hl : k.forked.getLast? = some leader) (hw : k.waited = [])
      (ha : k.added = false) : GivesBack k t (t.add leader group text).2 k.adds

def interpreter : Contract Sight where
  pre
    | .fork, P, k => k.waited = [] ∧ k.added = false ∧ (∀ pid, P (.ok (.parent pid)) (k.forks [pid])) ∧
        ∀ e, P (.error e) k
    | .wait target block, P, k => k.Awaitable target ∧ block = true ∧
        (∀ x report, Tells target x report → P (.ok report) (k.hears [(target, some x)])) ∧
        P (.error .noChild) (k.hears [(target, none)]) ∧ P (.error .interrupted) k
    | .acquireJobs, P, k => k.held = none ∧ k.forked = [] ∧ ∀ t, P t (k.takes t)
    | .releaseJobs t', P, k => ∃ t k', k.held = some t ∧ GivesBack k t t' k' ∧ P () k'
    | .awaitNotice, _, _ => False
    | _, P, k => ∀ r, P r k
  mono := by
    intro c P Q k hPQ h
    cases c with
    | fork => exact ⟨h.1, h.2.1, fun pid => hPQ _ _ (h.2.2.1 pid), fun e => hPQ _ _ (h.2.2.2 e)⟩
    | wait target block =>
      obtain ⟨ht, hb, hr, hn, hi⟩ := h
      exact ⟨ht, hb, fun x report hx => hPQ _ _ (hr x report hx), hPQ _ _ hn, hPQ _ _ hi⟩
    | acquireJobs => exact ⟨h.1, h.2.1, fun t => hPQ _ _ (h.2.2 t)⟩
    | releaseJobs t' =>
      obtain ⟨t, k', ht, hg, hP⟩ := h
      exact ⟨t, k', ht, hg, hPQ _ _ hP⟩
    | awaitNotice => exact h
    | _ => exact fun r => hPQ _ _ (h r)

variable {k : Sight} {pid : Pid} {pids : List Pid}

/-! ### Waiting -/

theorem waited?_of_tells {x : Status} {report : Report} (h : Tells pid x report) (target : Pid) :
    waited? target (.ok report) = some (.ok (some x)) := by
  cases report with
  | exited p code =>
    obtain ⟨-, rfl⟩ := h
    rfl
  | signaled p n core =>
    obtain ⟨-, signal, rfl, rfl⟩ := h
    rw [waited?, Report.named, Signal.ofNumber?_number]
    rfl
  | _ => exact h.elim

theorem ensures_waitFor (h : k.Awaitable pid) : (waitFor pid).Ensures interpreter
    (fun r k' => ∃ answer, r = .ok answer ∧ k' = k.hears [(pid, answer)]) k := by
  refine ensures_waitFor_of (fun k' => k' = k) rfl ?_
  rintro _ rfl
  refine ⟨h, rfl, fun x report hx => ?_, ⟨none, rfl, rfl⟩, rfl⟩
  simp only [waited?_of_tells hx]
  exact ⟨some x, rfl, rfl⟩

/-- All processes are waited for, in their order. -/
theorem ensures_waitAll (h : ∀ pid ∈ pids, k.Awaitable pid) : (waitAll pids).Ensures interpreter
    (fun r k' => ∃ statuses, r = .ok statuses ∧ statuses.length = pids.length ∧ k' = k.hears (pids.zip statuses)) k := by
  refine (ensures_waitAll_of (F := fun _ _ => False) (fun answers k' => k' = k.hears answers) k.hears_nil.symm
    fun pid hpid answers k' hk' => ?_).mono ?_
  · subst hk'
    refine (ensures_waitFor (k := k.hears answers) (h pid hpid)).mono ?_
    rintro _ _ ⟨answer, rfl, rfl⟩
    exact k.hears_hears _ _
  · rintro (f | statuses) k' hk'
    · exact hk'.elim
    · exact ⟨statuses, rfl, hk'.1, hk'.2⟩

theorem ensures_abandon (h : ∀ pid ∈ pids, k.Awaitable pid) : (Launch.abandon pids).Ensures interpreter
    (fun _ k' => ∃ answers, k' = k.hears answers) k := by
  have keep : ∀ answers pid, k.Awaitable pid → (k.hears answers).Awaitable pid := fun _ _ h => h
  refine (Launch.ensures_abandon_of (fun pids k' => (∀ pid ∈ pids, k.Awaitable pid) ∧ ∃ answers, k' = k.hears answers)
    ⟨h, [], k.hears_nil.symm⟩ (fun _ _ _ _ h => h) ?_).mono fun _ _ h => h.2
  rintro pid pids _ ⟨hpids, answers, rfl⟩
  refine (ensures_waitFor (keep answers pid (hpids pid List.mem_cons_self))).mono ?_
  rintro _ _ ⟨answer, -, rfl⟩
  exact ⟨fun pid hpid => hpids pid (List.mem_cons_of_mem _ hpid), _, k.hears_hears _ _⟩

/-! ### Forking -/

/-- Children may be forked: none was waited for, and no job was added. -/
structure Sight.Forking (k : Sight) : Prop where
  waited : k.waited = []
  added : k.added = false

theorem ensures_start (h : k.Forking) (i : Invocation) (w : Wiring) : (Launch.start i w).Ensures interpreter
    (fun r k' => match r with
      | .ok pid => k' = k.forks [pid]
      | .error _ => k' = k) k :=
  Launch.ensures_start_of (fun _ _ _ _ h => h) ⟨h.waited, h.added, fun _ => rfl, fun _ => rfl⟩

theorem ensures_spawn (h : k.Forking) {grouped : Bool} {stages : List Invocation} :
    (Launch.spawn grouped stages).Ensures interpreter (fun r k' => match r with
      | .ok pids => pids.length = stages.length ∧ k' = k.forks pids
      | .error _ => ∃ pids answers, k' = (k.forks pids).hears answers ∧ (pids = [] → answers = [])) k := by
  refine Prog.ensures_bind ((Launch.ensures_spawnStages_of_invariant (fun pids _ k' => k' = k.forks pids) (fun h => h)
    (fun _ _ _ h => h) (fun i hk => ?_) k.forks_nil.symm).mono ?_)
  · subst hk
    refine (ensures_start (k := k.forks _) ⟨h.waited, h.added⟩ i _).mono ?_
    rintro (e | pid) _ hk'
    · exact hk'
    · exact hk'.trans (k.forks_forks _ _)
  · rintro ⟨pids, failure⟩ _ ⟨⟨_, rfl⟩, ⟨rfl, hl⟩ | ⟨⟨e, he⟩, -⟩⟩
    · exact Prog.ensures_pure ⟨hl, rfl⟩
    · have own : ∀ pid ∈ pids, (k.forks pids).Awaitable pid := fun pid hpid =>
        ⟨h.added, .inl (List.mem_append_right _ hpid)⟩
      obtain ⟨f, rfl⟩ : ∃ f, failure = some f := by
        rcases he with rfl | rfl <;> exact ⟨_, rfl⟩
      cases pids with
      | nil => exact ⟨[], [], (Sight.hears_nil _).symm, fun _ => rfl⟩
      | cons pid pids =>
        refine Prog.ensures_bind ((ensures_abandon own).mono ?_)
        rintro _ _ ⟨answers, rfl⟩
        exact Prog.ensures_pure ⟨pid :: pids, answers, rfl, nofun⟩

/-! ### The table -/

theorem ensures_look {α : Type} (f : JobTable → α) (hh : k.held = none) (hf : k.forked = []) :
    (Registry.look f).Ensures interpreter (fun a k' => ∃ t, a = f t ∧ k' = (k.takes t).gives) k :=
  ensures_look_of ⟨hh, hf, fun t => ⟨t, _, rfl, .same, t, rfl, rfl⟩⟩

theorem ensures_remove (hh : k.held = none) (hf : k.forked = []) (hw : pid ∈ k.waited.map Prod.fst) :
    (Registry.remove pid).Ensures interpreter (fun _ k' => ∃ t, k' = (k.takes t).drops pid) k :=
  ensures_remove_of ⟨hh, hf, fun t => ⟨t, _, rfl, .removes hf hw, t, rfl⟩⟩

/-! ### Launching -/

/-- Nothing is left to be done: the table is given back, and the jobs that were waited for are taken out of it. -/
structure Settled (k : Sight) : Prop where
  held : k.held = none
  waited : k.forked = [] → ∀ x ∈ k.waited, x.1 ∈ k.dropped

/-- All stages of a pipeline were forked and waited for, and the last answer is known. -/
structure Attended (stages : Nat) (last : Option Status) (k : Sight) : Prop where
  length : k.forked.length = stages
  waited : k.waited.map Prod.fst = k.forked
  last : last = (k.waited.getLast?.map Prod.snd).join

theorem settled_begun : Settled .begun :=
  ⟨rfl, fun _ _ hx => absurd hx List.not_mem_nil⟩

theorem settled_looked {t : JobTable} : Settled (Sight.begun.takes t).gives :=
  ⟨rfl, fun _ _ hx => absurd hx List.not_mem_nil⟩

/-- Whoever was waited for is a child of the line itself. -/
theorem settled_forked {k : Sight} {answers : List (Pid × Option Status)} (hh : k.held = none) (hw : k.waited = [])
    (hp : k.forked = [] → answers = []) : Settled (k.hears answers) := by
  refine ⟨hh, fun hf x hx => ?_⟩
  rw [Sight.hears, hw, hp hf] at hx
  cases hx

theorem map_snd_zip {pids : List Pid} {statuses : List (Option Status)} (h : statuses.length = pids.length) :
    (pids.zip statuses).map Prod.fst = pids ∧ (pids.zip statuses).map Prod.snd = statuses :=
  ⟨List.map_fst_zip h.ge, List.map_snd_zip h.le⟩

theorem ensures_launch_foreground {stages : List Invocation} : (Launch.foreground stages).Ensures interpreter
    (fun r k' => Settled k' ∧ ∀ launched, r = .ok launched → Attended stages.length launched.last? k') .begun := by
  refine Prog.ensures_bind ((ensures_spawn (k := .begun) ⟨rfl, rfl⟩).mono ?_)
  rintro (f | pids) k₁ h₁
  · obtain ⟨pids, answers, rfl, hp⟩ := h₁
    exact Prog.ensures_pure ⟨settled_forked rfl rfl hp, nofun⟩
  · obtain ⟨hl, rfl⟩ := h₁
    have own : ∀ pid ∈ pids, (Sight.begun.forks pids).Awaitable pid := fun pid hpid => ⟨rfl, .inl hpid⟩
    refine Prog.ensures_bind ((ensures_waitAll own).mono ?_)
    rintro _ _ ⟨statuses, rfl, hs, rfl⟩
    obtain ⟨hfst, hsnd⟩ := map_snd_zip hs
    refine Prog.ensures_pure ⟨settled_forked rfl rfl fun hp => ?_, ?_⟩
    · obtain rfl : pids = [] := hp
      exact List.zip_nil_left
    · rintro _ ⟨⟩
      refine ⟨hl, hfst, ?_⟩
      show statuses.getLast?.join = ((pids.zip statuses).getLast?.map Prod.snd).join
      rw [← List.getLast?_map, hsnd]

theorem ensures_launch_background {text : Text} {stages : List Invocation} :
    (Launch.background text stages).Ensures interpreter (fun _ => Settled) .begun := by
  refine Prog.ensures_perform ⟨rfl, rfl, fun t => ?_⟩
  refine Prog.ensures_bind ((ensures_spawn (k := Sight.begun.takes t) ⟨rfl, rfl⟩).mono ?_)
  rintro (f | pids) k₁ h₁
  · obtain ⟨pids, answers, rfl, hp⟩ := h₁
    refine Prog.ensures_perform ⟨t, _, rfl, .same, Prog.ensures_pure ?_⟩
    exact settled_forked (k := ((Sight.begun.takes t).forks pids).gives) rfl rfl hp
  · obtain ⟨hl, rfl⟩ := h₁
    cases pids with
    | nil => exact Prog.ensures_perform ⟨t, _, rfl, .same, Prog.ensures_pure ⟨rfl, fun _ _ hx => absurd hx List.not_mem_nil⟩⟩
    | cons first rest =>
      have hlast : (first :: rest).getLast? = some ((first :: rest).getLast (List.cons_ne_nil first rest)) :=
        List.getLast?_eq_some_getLast _
      exact Prog.ensures_perform ⟨t, _, rfl, .adds first text hlast rfl rfl,
        Prog.ensures_pure ⟨rfl, fun _ _ hx => absurd hx List.not_mem_nil⟩⟩

theorem ensures_launchLine {p : Pipeline} (hp : p.stages ≠ []) : (Shell.launchLine p).run.Ensures interpreter
    (fun r k' => Settled k' ∧ ∀ last, r = .ok last → p.background = false → Attended p.stages.length last k')
    .begun := by
  have hlaunch : (launch p).Ensures interpreter (fun r k' => Settled k' ∧ ∀ launched, r = .ok launched →
      p.background = false → Attended p.stages.length launched.last? k') .begun := by
    refine Launch.ensures_launch_of (fun h => absurd h hp) (fun f _ => ⟨settled_begun, nofun⟩) fun stages _ _ hl => ?_
    rw [← hl]
    cases p.background with
    | true => exact ensures_launch_background.mono fun _ _ hs => ⟨hs, fun _ _ => nofun⟩
    | false => exact ensures_launch_foreground.mono fun _ _ hs => ⟨hs.1, fun launched hr _ => hs.2 launched hr⟩
  refine Prog.ensures_run_bind (hlaunch.mono ?_)
  rintro (f | launched) k' ⟨hs, ha⟩
  · exact ⟨hs, nofun⟩
  · have done : ∀ last, (.ok launched.last? : Except Failure (Option Status)) = .ok last → p.background = false →
        Attended p.stages.length last k' := by
      rintro _ ⟨⟩ hb
      exact ha launched rfl hb
    cases launched with
    | foreground statuses => exact Prog.ensures_pure ⟨hs, done⟩
    | background job =>
      refine Prog.ensures_run_bind ((Builtin.ensures_printLine_ignored (fun _ _ _ h => h) _).mono ?_)
      rintro (f | _) _ rfl
      · exact ⟨hs, nofun⟩
      · exact Prog.ensures_pure ⟨hs, done⟩

/-! ### Builtins -/

theorem ignoresTerminal : interpreter.IgnoresTerminal :=
  ⟨fun _ _ _ h => h, fun _ _ _ _ h => h, fun _ _ _ _ h => h, fun h => h⟩

/-- What is known of a job that was found: it was in the table. -/
def Found (job : Job) (k : Sight) : Prop := ∃ t, k = (Sight.begun.takes t).gives ∧ job ∈ t.jobs

theorem Found.settled {job : Job} (h : Found job k) : Settled k := by
  obtain ⟨t, rfl, -⟩ := h
  exact settled_looked

theorem ensures_findJob (b : Builtin) (args : List Text) : (b.findJob args).run.Ensures interpreter
    (fun r k' => match r with
      | .ok job => Found job k'
      | .error _ => Settled k') .begun := by
  refine Builtin.ensures_findJob_of (fun _ _ => settled_begun) fun id _ => (ensures_look _ rfl rfl).mono ?_
  rintro found _ ⟨t, rfl, rfl⟩
  cases hf : t.find? id with
  | none => exact settled_looked
  | some job => exact ⟨t, rfl, List.mem_of_find?_eq_some hf⟩

theorem ensures_foreground (args : List Text) :
    (Builtin.foreground args).run.Ensures interpreter (fun _ => Settled) .begun := by
  refine Builtin.ensures_foreground_of (B := Found) (fun _ _ _ h => h) ignoresTerminal (fun _ _ _ _ h => h)
    (ensures_findJob .fg args) (fun _ _ _ h => h.settled) ?_
  rintro job _ ⟨t, rfl, hj⟩
  have awaitable : (Sight.begun.takes t).gives.Awaitable job.pid := ⟨rfl, .inr ⟨rfl, job, hj, rfl⟩⟩
  refine (ensures_waitFor awaitable).mono ?_
  rintro _ _ ⟨answer, rfl, rfl⟩
  refine (ensures_remove rfl rfl List.mem_cons_self).mono ?_
  rintro _ _ ⟨t', rfl⟩
  exact ⟨rfl, fun _ x hx => List.mem_cons.mpr (.inl (congrArg Prod.fst (List.mem_singleton.mp hx)))⟩

theorem ensures_background (args : List Text) :
    (Builtin.background args).run.Ensures interpreter (fun _ => Settled) .begun := by
  refine Prog.ensures_run_bind ((ensures_findJob .bg args).mono ?_)
  rintro (f | job) k hk
  · exact hk
  · refine (Builtin.ensures_resume_ignored (fun _ _ _ _ h => h) .bg job.group).mono ?_
    rintro _ _ rfl
    exact hk.settled

theorem ensures_listJobs : Builtin.listJobs.run.Ensures interpreter (fun _ => Settled) .begun := by
  refine Prog.ensures_lift_bind ((ensures_look _ rfl rfl).mono ?_)
  rintro _ _ ⟨t, rfl, rfl⟩
  refine (Builtin.ensures_forM_printLine_ignored (fun _ _ _ h => h) _).mono ?_
  rintro _ _ rfl
  exact settled_looked

theorem ensures_builtin (b : Builtin) (args : List Text) :
    (b.run args).run.Ensures interpreter (fun _ => Settled) .begun := by
  cases b with
  | exit => exact Prog.ensures_pure settled_begun
  | cd => exact Builtin.ensures_proceed_of (Builtin.ensures_changeDirectory_of (fun _ _ => settled_begun)
      fun _ _ r => by cases r <;> exact settled_begun)
  | jobs => exact Builtin.ensures_proceed_of ensures_listJobs
  | fg => exact Builtin.ensures_proceed_of (ensures_foreground args)
  | bg => exact Builtin.ensures_proceed_of (ensures_background args)

/-! ### Lines -/

/-- The line is a pipeline in the foreground. -/
def Foreground (limits : Limits) (line : Text) (p : Pipeline) : Prop :=
  Pipeline.parse limits line = .ok p ∧ p.command = .external p ∧ p.background = false ∧ p.stages ≠ []

/-- How an evaluation ends. -/
structure Done (limits : Limits) (line : Text) (r : Except Failure Flow × Shell) (k : Sight) : Prop where
  same : r.2.limits = limits
  settled : Settled k
  status : ∀ p flow, Foreground limits line p → r.1 = .ok flow →
    ∃ last, Attended p.stages.length last k ∧ r.2.status = (last.map Status.code).getD 0

theorem ensures_eval (shell : Shell) (line : Text) :
    (shell.eval line).Ensures interpreter (Done shell.limits line) .begun := by
  refine Shell.ensures_eval_of (Shell.ensures_obey_of ?_ ?_ ?_ ?_)
  · intro f hp
    exact ⟨rfl, settled_begun, nofun⟩
  · intro p hp hs
    refine ⟨rfl, settled_begun, fun p' _ hf _ => ?_⟩
    rw [Foreground, hp] at hf
    obtain ⟨⟨⟩, -, -, hne⟩ := hf
    exact absurd hs hne
  · intro p b args hp hc
    refine (ensures_builtin b args).mono fun r k hs => ⟨rfl, hs, fun p' _ hf _ => ?_⟩
    rw [Foreground, hp] at hf
    obtain ⟨⟨⟩, hc', -⟩ := hf
    rw [hc] at hc'
    cases hc'
  · intro p hp hc hs
    refine (ensures_launchLine hs).mono ?_
    rintro (f | last) k ⟨hk, ha⟩
    · exact ⟨rfl, hk, nofun⟩
    · refine ⟨rfl, hk, fun p' flow hf _ => ?_⟩
      rw [Foreground, hp] at hf
      obtain ⟨⟨⟩, -, hb, -⟩ := hf
      refine ⟨last, ha last rfl hb, ?_⟩
      cases last <;> rfl

end JobShell.Recycling
