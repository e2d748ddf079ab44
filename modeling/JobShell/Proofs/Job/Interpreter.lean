import JobShell.Proofs.Job.Threads
import JobShell.Proofs.Launch.Stages
import JobShell.Proofs.Traversal

/-! # What the interpreter does to jobs

Of all that a line can do, little matters to the job table: the interpreter takes the table and gives it back as it
was, or without the job that the line addresses, when the leader of this job has been collected, or with a new job for
children that it has forked meanwhile. The contract says so, and every evaluation keeps to it. -/

namespace JobShell.Threads

/-- What the interpreter knows while it evaluates a line. -/
structure Sight where
  record : Evaluation
  held : Option JobTable
  /-- The children forked since the table was last taken or given back. -/
  fresh : List Pid
  /-- The jobs that were in the table when it was taken. -/
  seen : List Job
  /-- The processes that have been collected. -/
  gone : List Pid
  /-- The processes whose jobs were taken out of the table. -/
  dropped : List Pid
  added : List Job

namespace Sight

def begun (line : Text) : Sight := ⟨⟨line, [], []⟩, none, [], [], [], [], []⟩

/-- The process was forked and leads no job. -/
def Own (k : Sight) (pid : Pid) : Prop := pid ∈ k.record.forked ∧ ∀ job ∈ k.added, job.pid ≠ pid

/-- The process is, or has been, a child of the shell. -/
def Known (k : Sight) (pid : Pid) : Prop := pid ∈ k.record.forked ∨ ∃ job ∈ k.seen, job.pid = pid

def forks (k : Sight) (pids : List Pid) : Sight :=
  { k with record := { k.record with forked := k.record.forked ++ pids }, fresh := k.fresh ++ pids }

def waits (k : Sight) (lost pids : List Pid) : Sight :=
  { k with record := { k.record with lost := k.record.lost ++ lost }, gone := k.gone ++ pids }

def takes (k : Sight) (t : JobTable) : Sight :=
  { k with held := some t, fresh := [], seen := k.seen ++ t.jobs }

def gives (k : Sight) : Sight := { k with held := none, fresh := [] }

def drops (k : Sight) (pid : Pid) : Sight := { k.gives with dropped := pid :: k.dropped }

def adds (k : Sight) (job : Job) : Sight := { k.gives with added := job :: k.added }

theorem waits_waits {k : Sight} {lost lost' pids pids' : List Pid} :
    (k.waits lost pids).waits lost' pids' = k.waits (lost ++ lost') (pids ++ pids') := by
  simp only [waits, List.append_assoc]

theorem forks_forks {k : Sight} {pids pids' : List Pid} : (k.forks pids).forks pids' = k.forks (pids ++ pids') := by
  simp only [forks, List.append_assoc]

end Sight

/-- The end of a process is reported. -/
def Tells (pid : Pid) : Report → Prop
  | .exited p _ => p = pid
  | .signaled p n _ => p = pid ∧ ∃ x : Signal, x.number = n
  | _ => False

/-- In which form the interpreter may give a table back, and what it knows then. -/
inductive GivesBack (limits : Limits) (k : Sight) (t : JobTable) : JobTable → Sight → Prop
  | same : GivesBack limits k t t k.gives
  | removes {job : Job} (hs : job ∈ k.seen) (hg : job.pid ∈ k.gone) (ha : Addresses limits k.record.line job.id) :
      GivesBack limits k t (t.remove job.pid).2 (k.drops job.pid)
  | adds {leader : Pid} (group : Pid) (text : Text) (hf : leader ∈ k.fresh) :
      GivesBack limits k t (t.add leader group text).2 (k.adds (t.add leader group text).1)

def interpreter (limits : Limits) : Contract Sight where
  pre
    | .fork, P, k => (∀ pid, P (.ok (.parent pid)) (k.forks [pid])) ∧ ∀ e, P (.error e) k
    | .wait target block, P, k => k.Known target ∧ block = true ∧
        (∀ report, Tells target report → P (.ok report) (k.waits [] [target])) ∧
        P (.error .noChild) (k.waits [target] [target]) ∧ P (.error .interrupted) k
    | .acquireJobs, P, k => k.held = none ∧ ∀ t, P t (k.takes t)
    | .releaseJobs t', P, k => ∃ t k', k.held = some t ∧ GivesBack limits k t t' k' ∧ P () k'
    | _, P, k => ∀ r, P r k
  mono := by
    intro c P Q k hPQ h
    cases c with
    | fork => exact ⟨fun pid => hPQ _ _ (h.1 pid), fun e => hPQ _ _ (h.2 e)⟩
    | wait target block =>
      obtain ⟨hk, hb, hr, hn, hi⟩ := h
      exact ⟨hk, hb, fun report ht => hPQ _ _ (hr report ht), hPQ _ _ hn, hPQ _ _ hi⟩
    | acquireJobs => exact ⟨h.1, fun t => hPQ _ _ (h.2 t)⟩
    | releaseJobs t' =>
      obtain ⟨t, k', ht, hg, hP⟩ := h
      exact ⟨t, k', ht, hg, hPQ _ _ hP⟩
    | _ => exact fun r => hPQ _ _ (h r)

variable {limits : Limits} {k : Sight} {pid : Pid} {pids : List Pid}

/-! ### Waiting -/

theorem named_of_tells {report : Report} (h : Tells pid report) :
    ∃ change status, report.named = .ok change ∧ change.pid? = some pid ∧ change.status? = some status := by
  cases report with
  | exited p code => exact ⟨_, _, rfl, congrArg some h, rfl⟩
  | signaled p n core =>
    obtain ⟨hp, x, rfl⟩ := h
    refine ⟨.signaled p x core, _, ?_, congrArg some hp, rfl⟩
    rw [Report.named, Signal.ofNumber?_number]
  | _ => exact h.elim

theorem ensures_awaitChange (h : k.Known pid) : (awaitChange pid true).Ensures (interpreter limits)
    (fun r k' => match r with
      | .ok change => (∃ status, change.status? = some status) ∧ k' = k.waits [] [pid]
      | .error e => (e = .noChild ∧ k' = k.waits [pid] [pid]) ∨ (e = .interrupted ∧ k' = k)) k := by
  refine Prog.ensures_perform ⟨h, rfl, fun report ht => ?_, .inl ⟨rfl, rfl⟩, .inr ⟨rfl, rfl⟩⟩
  obtain ⟨change, status, hn, -, hs⟩ := named_of_tells ht
  show (pure report.named : Prog _).Ensures _ _ _
  rw [hn]
  exact ⟨⟨status, hs⟩, rfl⟩

/-- A process that is waited for has been collected then, by the one who waits or by the other. -/
theorem ensures_waitFor (h : k.Known pid) : (waitFor pid).Ensures (interpreter limits)
    (fun r k' => (∃ status, r = .ok status) ∧ ∃ lost, k' = k.waits lost [pid]) k := by
  refine Prog.ensures_repeated (fun _ k' => k' = k) rfl ?_
  rintro _ _ rfl
  refine Prog.ensures_bind ((ensures_awaitChange h).mono ?_)
  rintro (e | change) k' hk'
  · rcases hk' with ⟨rfl, rfl⟩ | ⟨rfl, rfl⟩
    · exact ⟨⟨_, rfl⟩, _, rfl⟩
    · rfl
  · obtain ⟨⟨status, hs⟩, rfl⟩ := hk'
    simp only [hs]
    exact ⟨⟨_, rfl⟩, _, rfl⟩

theorem ensures_waitAll (h : ∀ pid ∈ pids, k.Known pid) : (waitAll pids).Ensures (interpreter limits)
    (fun r k' => (∃ statuses, r = .ok statuses) ∧ ∃ lost, k' = k.waits lost pids) k := by
  induction pids generalizing k with
  | nil => exact Prog.ensures_pure ⟨⟨_, rfl⟩, [], by simp [Sight.waits]⟩
  | cons pid pids ih =>
    obtain ⟨hpid, hpids⟩ := List.forall_mem_cons.mp h
    refine Prog.ensures_bind ((ensures_waitFor hpid).mono ?_)
    rintro _ _ ⟨⟨status, rfl⟩, lost, rfl⟩
    refine Prog.ensures_bind ((ih (k := k.waits lost [pid]) hpids).mono ?_)
    rintro _ _ ⟨⟨statuses, rfl⟩, lost', rfl⟩
    exact Prog.ensures_pure ⟨⟨_, rfl⟩, _, Sight.waits_waits⟩

/-! ### Forking -/

theorem ensures_start (i : Invocation) (w : Wiring) : (Launch.start i w).Ensures (interpreter limits)
    (fun r k' => (∃ pid, r = .ok pid ∧ k' = k.forks [pid]) ∨ (∃ e, r = .error e) ∧ k' = k) k := by
  refine Prog.ensures_perform ⟨fun pid => ?_, fun e => .inr ⟨⟨e, rfl⟩, rfl⟩⟩
  obtain ⟨input, output, spare, group⟩ := w
  cases group with
  | none => exact Prog.ensures_pure (.inl ⟨pid, rfl, rfl⟩)
  | some group => exact fun r => .inl ⟨pid, rfl, rfl⟩

theorem ensures_spawnStages {group : Option Pid} {held : Option Descriptor} {stages : List Invocation} :
    (Launch.spawnStages group held stages).Ensures (interpreter limits) (fun r k' => k' = k.forks r.1 ∧
      (r.2 = none ∧ r.1.length = stages.length ∨ (∃ f, r.2 = some f) ∧ r.1.length < stages.length)) k := by
  have nothing : k = k.forks [] := by simp [Sight.forks]
  refine (Launch.ensures_spawnStages_of_invariant (fun pids _ k' => k' = k.forks pids) (fun h => h) (fun _ _ _ h => h)
    (fun i hk => ?_) nothing).mono ?_
  · subst hk
    refine (ensures_start i _).mono ?_
    rintro r _ (⟨pid, rfl, rfl⟩ | ⟨⟨e, rfl⟩, rfl⟩)
    · exact Sight.forks_forks
    · exact rfl
  · rintro r _ ⟨⟨_, rfl⟩, hend⟩
    refine ⟨by rw [List.nil_append], hend.imp_right fun h => ⟨?_, h.2⟩⟩
    obtain ⟨e, hf | hf⟩ := h.1 <;> exact ⟨_, hf⟩

theorem ensures_abandon (h : ∀ pid ∈ pids, k.Known pid) : (Launch.abandon pids).Ensures (interpreter limits)
    (fun _ k' => ∃ lost, k' = k.waits lost pids) k := by
  induction pids generalizing k with
  | nil => exact Prog.ensures_pure ⟨[], by simp [Sight.waits]⟩
  | cons pid pids ih =>
    obtain ⟨hpid, hpids⟩ := List.forall_mem_cons.mp h
    refine Prog.ensures_perform fun _ => Prog.ensures_bind ((ensures_waitFor hpid).mono ?_)
    rintro _ _ ⟨-, lost, rfl⟩
    refine (ih (k := k.waits lost [pid]) hpids).mono ?_
    rintro _ _ ⟨lost', rfl⟩
    exact ⟨_, Sight.waits_waits⟩

/-- Either all stages have been forked, or fewer, which have been collected then. -/
theorem ensures_spawn {grouped : Bool} {stages : List Invocation} :
    (Launch.spawn grouped stages).Ensures (interpreter limits) (fun r k' =>
      (∃ pids, r = .ok pids ∧ pids.length = stages.length ∧ k' = k.forks pids) ∨
      ∃ f pids lost, r = .error f ∧ pids.length < stages.length ∧ k' = (k.forks pids).waits lost pids) k := by
  refine Prog.ensures_bind (ensures_spawnStages.mono ?_)
  rintro ⟨pids, failure⟩ _ ⟨rfl, ⟨rfl, hl⟩ | ⟨⟨f, rfl⟩, hl⟩⟩
  · exact Prog.ensures_pure (.inl ⟨pids, rfl, hl, rfl⟩)
  · refine Prog.ensures_bind ((ensures_abandon fun pid hpid => ?_).mono ?_)
    · exact .inl (List.mem_append_right _ hpid)
    · rintro _ _ ⟨lost, rfl⟩
      exact Prog.ensures_pure (.inr ⟨f, pids, lost, rfl, hl, rfl⟩)

/-! ### The table -/

theorem ensures_look {α : Type} (f : JobTable → α) (h : k.held = none) :
    (Registry.look f).Ensures (interpreter limits) (fun a k' => ∃ t, a = f t ∧ k' = (k.takes t).gives) k :=
  Prog.ensures_perform ⟨h, fun t => Prog.ensures_perform ⟨t, _, rfl, .same, t, rfl, rfl⟩⟩

theorem ensures_remove {job : Job} (h : k.held = none) (hs : job ∈ k.seen) (hg : job.pid ∈ k.gone)
    (ha : Addresses limits k.record.line job.id) : (Registry.remove job.pid).Ensures (interpreter limits)
    (fun _ k' => ∃ t, k' = (k.takes t).drops job.pid) k :=
  Prog.ensures_perform ⟨h, fun t => Prog.ensures_perform
    ⟨t, _, rfl, .removes (List.mem_append_left _ hs) hg ha, t, rfl⟩⟩

/-- Nothing is left to be done about the processes that have been collected. -/
structure Settled (k : Sight) : Prop where
  held : k.held = none
  gone : ∀ pid ∈ k.gone, pid ∈ k.dropped ∨ k.Own pid

/-! ### Launching -/

/-- If all stages have been forked, their job has been added. -/
def Added (n : Nat) (text : Text) (k : Sight) : Prop :=
  ∀ leader, k.record.forked.length = n → k.record.forked.getLast? = some leader →
    ∃ job ∈ k.added, job.pid = leader ∧ job.text = text ∧ k.record.forked.head? = some job.group

variable {line text : Text} {stages : List Invocation}

theorem ensures_launch_background : (Launch.background text stages).Ensures (interpreter limits)
    (fun _ k' => k'.record.line = line ∧ Settled k' ∧ Added stages.length text k') (.begun line) := by
  refine Prog.ensures_perform ⟨rfl, fun t => Prog.ensures_bind (ensures_spawn.mono ?_)⟩
  rintro r _ (⟨pids, rfl, hl, rfl⟩ | ⟨f, pids, lost, rfl, hl, rfl⟩)
  · cases pids with
    | nil =>
      refine Prog.ensures_perform ⟨t, _, rfl, .same, rfl, ⟨rfl, fun pid hpid => ?_⟩, fun leader _ hleader => ?_⟩
      · cases hpid
      · cases hleader
    | cons first rest =>
      refine Prog.ensures_perform ⟨t, _, rfl, .adds first text (List.getLast_mem (List.cons_ne_nil first rest)), rfl,
        ⟨rfl, fun pid hpid => ?_⟩, fun leader _ hleader => ?_⟩
      · cases hpid
      · exact ⟨_, List.mem_cons_self, Option.some.inj hleader, rfl, rfl⟩
  · refine Prog.ensures_perform ⟨t, _, rfl, .same, rfl, ⟨rfl, fun pid hpid => ?_⟩, fun leader hlength => ?_⟩
    · exact .inr ⟨hpid, fun job hj => absurd hj List.not_mem_nil⟩
    · exact absurd hlength (Nat.ne_of_lt hl)

theorem ensures_launch_foreground : (Launch.foreground stages).Ensures (interpreter limits)
    (fun _ k' => k'.record.line = line ∧ Settled k') (.begun line) := by
  refine Prog.ensures_bind (ensures_spawn.mono ?_)
  rintro r _ (⟨pids, rfl, hl, rfl⟩ | ⟨f, pids, lost, rfl, hl, rfl⟩)
  · have known : ∀ pid ∈ pids, ((Sight.begun line).forks pids).Known pid := fun _ hpid => .inl hpid
    refine Prog.ensures_bind ((ensures_waitAll known).mono ?_)
    rintro _ _ ⟨⟨statuses, rfl⟩, lost, rfl⟩
    exact Prog.ensures_pure ⟨rfl, rfl, fun pid hpid => .inr ⟨hpid, fun job hj => absurd hj List.not_mem_nil⟩⟩
  · exact Prog.ensures_pure ⟨rfl, rfl, fun pid hpid => .inr ⟨hpid, fun job hj => absurd hj List.not_mem_nil⟩⟩

theorem settled_begun : Settled (.begun line) :=
  ⟨rfl, fun _ hpid => absurd hpid List.not_mem_nil⟩

theorem ensures_launch (p : Pipeline) : (launch p).Ensures (interpreter limits) (fun _ k' =>
    k'.record.line = line ∧ Settled k' ∧ (p.background = true → Added p.stages.length p.text k')) (.begun line) := by
  unfold launch
  split
  · refine Prog.ensures_pure ⟨rfl, settled_begun, fun _ leader _ hleader => ?_⟩
    cases hleader
  · split
    · refine Prog.ensures_pure ⟨rfl, settled_begun, fun _ leader _ hleader => ?_⟩
      cases hleader
    · rename_i stages hstages
      have hl : stages.length = p.stages.length := (mapM_eq_ok_iff.mp hstages).length_eq.symm
      split
      · rw [← hl]
        exact ensures_launch_background.mono fun _ _ ⟨h, hs, ha⟩ => ⟨h, hs, fun _ => ha⟩
      · rename_i hb
        exact ensures_launch_foreground.mono fun _ _ ⟨h, hs⟩ => ⟨h, hs, fun hb' => absurd hb' hb⟩

theorem ensures_printLine (text : Text) :
    (Builtin.printLine text).run.Ensures (interpreter limits) (fun _ k' => k' = k) k := by
  refine Prog.ensures_perform fun r => ?_
  cases r <;> rfl

theorem ensures_launchLine (p : Pipeline) : (Shell.launchLine p).run.Ensures (interpreter limits) (fun _ k' =>
    k'.record.line = line ∧ Settled k' ∧ (p.background = true → Added p.stages.length p.text k')) (.begun line) := by
  refine Prog.ensures_run_bind ((ensures_launch p).mono ?_)
  rintro (f | launched) k' hk'
  · exact hk'
  · cases launched with
    | foreground statuses => exact hk'
    | background job =>
      refine Prog.ensures_run_bind ((ensures_printLine _).mono ?_)
      rintro (f | _) _ rfl <;> exact hk'

/-! ### Builtins -/

theorem jobId_eq_ok {b : Builtin} {args : List Text} {id : Nat} (h : b.jobId args = .ok id) :
    ∃ argument, args = [argument] ∧ Builtin.readId? argument = some id := by
  unfold Builtin.jobId at h
  split at h
  · split at h
    · cases h
      exact ⟨_, rfl, by assumption⟩
    · cases h
  · cases h

theorem ensures_findJob (b : Builtin) (args : List Text) (h : k.held = none) :
    (b.findJob args).run.Ensures (interpreter limits) (fun r k' => match r with
      | .ok job => ∃ t, k' = (k.takes t).gives ∧ job ∈ t.jobs ∧ b.jobId args = .ok job.id
      | .error _ => k' = k ∨ ∃ t, k' = (k.takes t).gives) k := by
  refine Prog.ensures_run_bind (Prog.ensures_pure ?_)
  cases hid : b.jobId args with
  | error f => exact .inl rfl
  | ok id =>
    refine Prog.ensures_lift_bind ((ensures_look _ h).mono ?_)
    rintro found _ ⟨t, rfl, rfl⟩
    cases hf : t.find? id with
    | none => exact .inr ⟨t, rfl⟩
    | some job =>
      have hid : job.id = id := by simpa using List.find?_some hf
      exact ⟨t, rfl, List.mem_of_find?_eq_some hf, congrArg Except.ok hid.symm⟩

/-- A program that is run only sometimes, and that changes nothing. -/
theorem ensures_ite_lift {α β : Type} {p : Prog α} {q : Action β} {Q : Except Failure β → Sight → Prop} (b : Bool)
    (hp : p.Ensures (interpreter limits) (fun _ k' => k' = k) k) (hq : q.run.Ensures (interpreter limits) Q k) :
    (if b = true then (do let _ ← ExceptT.lift p; q) else q : Action β).run.Ensures (interpreter limits) Q k := by
  cases b with
  | false => exact hq
  | true =>
    refine Prog.ensures_lift_bind (hp.mono ?_)
    rintro _ _ rfl
    exact hq

theorem ensures_setForeground (group : Pid) :
    (Terminal.setForeground group).Ensures (interpreter limits) (fun _ k' => k' = k) k :=
  fun _ _ _ => rfl

theorem ensures_reclaim : Terminal.reclaim.Ensures (interpreter limits) (fun _ k' => k' = k) k :=
  fun group => ensures_setForeground group

theorem ensures_resume (b : Builtin) (group : Pid) :
    (b.resume group).run.Ensures (interpreter limits) (fun _ k' => k' = k) k := by
  refine Prog.ensures_perform fun r => ?_
  cases r with
  | ok _ => rfl
  | error e => by_cases he : e = .noProcess <;> simp only [he, if_true, if_false] <;> rfl

/-- The evaluation leaves nothing to be done, and if it has lost a child, it ends well. -/
structure Kept (line : Text) (well : Prop) (k : Sight) : Prop where
  line : k.record.line = line
  settled : Settled k
  lost : k.record.lost ≠ [] → well

theorem kept_begun {well : Prop} : Kept line well (.begun line) :=
  ⟨rfl, settled_begun, fun h => absurd rfl h⟩

theorem kept_gives {well : Prop} {t : JobTable} : Kept line well ((Sight.begun line).takes t).gives :=
  ⟨rfl, ⟨rfl, fun _ hpid => absurd hpid List.not_mem_nil⟩, fun h => absurd rfl h⟩

theorem ensures_foreground {args : List Text} (ha : ∀ id, Builtin.jobId .fg args = .ok id → Addresses limits line id) :
    (Builtin.foreground args).run.Ensures (interpreter limits) (fun r => Kept line (r = .ok ())) (.begun line) := by
  refine Prog.ensures_run_bind ((ensures_findJob .fg args rfl).mono ?_)
  rintro (f | job) k' hk'
  · rcases hk' with rfl | ⟨t, rfl⟩
    · exact kept_begun
    · exact kept_gives
  · obtain ⟨t, rfl, hj, hid⟩ := hk'
    refine Prog.ensures_run_bind ((ensures_printLine _).mono ?_)
    rintro (f | _) _ rfl
    · exact kept_gives
    · refine Prog.ensures_lift_bind (Prog.ensures_call fun terminal => ?_)
      refine ensures_ite_lift terminal (ensures_setForeground _) ?_
      refine Prog.ensures_run_bind ((ensures_resume _ _).mono ?_)
      rintro (f | _) _ rfl
      · exact kept_gives
      · have known : ((Sight.begun line).takes t).gives.Known job.pid := .inr ⟨job, hj, rfl⟩
        refine Prog.ensures_lift_bind ((ensures_waitFor known).mono ?_)
        rintro _ _ ⟨⟨status, rfl⟩, lost, rfl⟩
        refine ensures_ite_lift terminal ensures_reclaim ?_
        -- The wait has told that the leader has been collected, whoever did it.
        refine Prog.ensures_lift_bind ((ensures_remove rfl hj List.mem_cons_self (ha job.id hid)).mono ?_)
        rintro _ _ ⟨t', rfl⟩
        exact Prog.ensures_pure ⟨rfl, ⟨rfl, fun _ hpid => .inl hpid⟩, fun _ => rfl⟩

theorem ensures_background (args : List Text) :
    (Builtin.background args).run.Ensures (interpreter limits) (fun r => Kept line (r = .ok ())) (.begun line) := by
  refine Prog.ensures_run_bind ((ensures_findJob .bg args rfl).mono ?_)
  rintro (f | job) k' hk'
  · rcases hk' with rfl | ⟨t, rfl⟩
    · exact kept_begun
    · exact kept_gives
  · obtain ⟨t, rfl, -, -⟩ := hk'
    refine (ensures_resume _ _).mono ?_
    rintro _ _ rfl
    exact kept_gives

theorem ensures_forM_printLine (jobs : List Job) : (jobs.forM fun job => Builtin.printLine job.line).run.Ensures
    (interpreter limits) (fun _ k' => k' = k) k := by
  induction jobs with
  | nil => exact Prog.ensures_pure rfl
  | cons job jobs ih =>
    refine Prog.ensures_run_bind ((ensures_printLine _).mono ?_)
    rintro (f | _) _ rfl
    · rfl
    · exact ih

theorem ensures_listJobs :
    Builtin.listJobs.run.Ensures (interpreter limits) (fun r => Kept line (r = .ok ())) (.begun line) := by
  refine Prog.ensures_lift_bind ((ensures_look _ rfl).mono ?_)
  rintro _ _ ⟨t, rfl, rfl⟩
  refine (ensures_forM_printLine _).mono ?_
  rintro _ _ rfl
  exact kept_gives

theorem ensures_changeDirectory (args : List Text) :
    (Builtin.changeDirectory args).run.Ensures (interpreter limits) (fun r => Kept line (r = .ok ())) (.begun line) := by
  unfold Builtin.changeDirectory
  split
  · split
    · exact Prog.ensures_pure kept_begun
    · refine Prog.ensures_perform fun r => ?_
      cases r <;> exact Prog.ensures_pure kept_begun
  · exact Prog.ensures_pure kept_begun

theorem ensures_proceed {x : Action Unit}
    (h : x.run.Ensures (interpreter limits) (fun r => Kept line (r = .ok ())) (.begun line)) :
    (x >>= fun _ => pure .proceed : Action Flow).run.Ensures (interpreter limits)
      (fun r => Kept line (r = .ok .proceed)) (.begun line) := by
  refine Prog.ensures_run_bind (h.mono ?_)
  rintro (f | _) _ ⟨hl, hs, hlost⟩
  · exact ⟨hl, hs, fun h => by cases hlost h⟩
  · exact Prog.ensures_pure ⟨hl, hs, fun _ => rfl⟩

theorem ensures_builtin (b : Builtin) (args : List Text)
    (ha : b = .fg → ∀ id, Builtin.jobId .fg args = .ok id → Addresses limits line id) :
    (b.run args).run.Ensures (interpreter limits) (fun r => Kept line (r = .ok .proceed)) (.begun line) := by
  cases b with
  | exit => exact Prog.ensures_pure kept_begun
  | cd => exact ensures_proceed (ensures_changeDirectory args)
  | jobs => exact ensures_proceed ensures_listJobs
  | fg => exact ensures_proceed (ensures_foreground (ha rfl))
  | bg => exact ensures_proceed (ensures_background args)

/-! ### Lines -/

/-- How an evaluation ends: it leaves nothing to be done, a pipeline in the background that it has launched has its
job, and to lose a child is no failure of the line that addresses its job. -/
structure Done (limits : Limits) (r : Except Failure Flow) (k : Sight) : Prop where
  settled : Settled k
  launched : ∀ p leader, Launched limits k.record p leader →
    ∃ job ∈ k.added, job.pid = leader ∧ job.text = p.text ∧ k.record.forked.head? = some job.group
  lost : ∀ id, Addresses limits k.record.line id → k.record.lost ≠ [] → r = .ok .proceed

theorem Kept.done {r : Except Failure Flow} (h : Kept line (r = .ok .proceed) k)
    (hp : ∀ p, Pipeline.parse limits line = .ok p → p.command = .external p → p.stages = []) : Done limits r k := by
  obtain ⟨hl, hs, hlost⟩ := h
  refine ⟨hs, fun p leader hlaunched => ?_, fun _ _ => hlost⟩
  obtain ⟨hparse, -, hcommand, hlength, hleader⟩ := hlaunched
  rw [hl] at hparse
  rw [hp p hparse hcommand, List.length_nil] at hlength
  rw [List.eq_nil_of_length_eq_zero hlength] at hleader
  cases hleader

theorem eq_of_command_eq_external {p p' : Pipeline} (h : p.command = .external p') : p' = p := by
  unfold Pipeline.command at h
  split at h
  · split at h <;> cases h
    rfl
  · cases h
    rfl

theorem ensures_obey (limits : Limits) (line : Text) : (Shell.obey limits line).run.Ensures (interpreter limits)
    (fun r => Done limits (r.map (·.1))) (.begun line) := by
  unfold Shell.obey
  cases hparse : Pipeline.parse limits line with
  | error f => exact Prog.ensures_pure (kept_begun.done fun p hp => by rw [hparse] at hp; cases hp)
  | ok p =>
    by_cases hempty : p.stages.isEmpty = true
    · simp only [hempty, if_true]
      refine Prog.ensures_pure (kept_begun.done fun p' hp' _ => ?_)
      rw [hparse] at hp'
      cases hp'
      exact List.isEmpty_iff.mp hempty
    · simp only [hempty]
      cases hcommand : p.command with
      | builtin b args =>
        have haddress : b = .fg → ∀ id, Builtin.jobId .fg args = .ok id → Addresses limits line id := by
          rintro rfl id hid
          obtain ⟨argument, rfl, hread⟩ := jobId_eq_ok hid
          exact ⟨p, argument, hparse, hcommand, hread⟩
        have hnone : ∀ p', Pipeline.parse limits line = .ok p' → p'.command = .external p' → p'.stages = [] := by
          intro p' hp' hcommand'
          rw [hparse] at hp'
          cases hp'
          rw [hcommand] at hcommand'
          cases hcommand'
        refine Prog.ensures_run_bind ((ensures_builtin b args haddress).mono ?_)
        rintro (f | flow) k hk
        · exact hk.done hnone
        · exact Prog.ensures_pure (hk.done hnone)
      | external p' =>
        obtain rfl := eq_of_command_eq_external hcommand
        have done : ∀ r k, k.record.line = line ∧ Settled k ∧
            (p'.background = true → Added p'.stages.length p'.text k) → Done limits r k := by
          rintro r k ⟨hl, hs, hadded⟩
          refine ⟨hs, fun p leader hlaunched => ?_, fun id haddress => ?_⟩
          · obtain ⟨hp, hb, -, hlength, hleader⟩ := hlaunched
            rw [hl, hparse] at hp
            cases hp
            exact hadded hb leader hlength hleader
          · obtain ⟨p, argument, hp, hbuiltin, -⟩ := haddress
            rw [hl, hparse] at hp
            cases hp
            rw [hcommand] at hbuiltin
            cases hbuiltin
        refine Prog.ensures_run_bind ((ensures_launchLine p').mono ?_)
        rintro (f | status) k hk
        · exact done _ k hk
        · exact Prog.ensures_pure (done _ k hk)

theorem ensures_eval (shell : Shell) (line : Text) : (shell.eval line).Ensures (interpreter shell.limits)
    (fun r k => r.2.limits = shell.limits ∧ Done shell.limits r.1 k) (.begun line) :=
  Prog.ensures_bind ((ensures_obey _ _).mono fun _ _ h => Prog.ensures_pure ⟨rfl, h⟩)

end JobShell.Threads
