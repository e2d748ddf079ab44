import JobShell.Proofs.Job.Children
import JobShell.Proofs.Job.Table

/-! # What reaping does to the job table

Reaping collects children one after the other and takes out the jobs that they led. A child that was ended by a signal
without a name is collected as well, but the shell does not learn which child it was: its job stays in the table, and
the jobs that were taken out before are not answered. -/

namespace JobShell.Children

/-- The jobs led by collected children, in the order of the collection. -/
def led (t : JobTable) (ends : List (Pid × Ending)) : List Job :=
  ends.filterMap fun x => t.lead? x.1

/-- The table without the jobs led by collected children. -/
def without (t : JobTable) (ends : List (Pid × Ending)) : JobTable :=
  { t with jobs := t.jobs.filter fun job => job.pid ∉ ends.map Prod.fst }

/-- What reaping answers and which table it leaves. -/
inductive Reaped (t : JobTable) (ends : List (Pid × Ending)) : Except Failure (List Job) → JobTable → Prop
  | all (hnamed : ∀ x ∈ ends, x.2.status? ≠ none) : Reaped t ends (.ok (led t ends)) (without t ends)
  | failed {before : List (Pid × Ending)} {pid : Pid} {signal : SignalNumber}
      (hends : ends = before ++ [(pid, .signaled signal)]) (hsignal : 32 ≤ signal.val)
      (hnamed : ∀ x ∈ before, x.2.status? ≠ none) :
      Reaped t ends (.error (.reap .invalid)) (without t before)

variable {t : JobTable} {ends : List (Pid × Ending)} {pid : Pid} {e : Ending} {k : Sight}

theorem without_nil (t : JobTable) : without t [] = t := by
  simp [without]

theorem nodup_without (h : (t.jobs.map Job.pid).Nodup) : ((without t ends).jobs.map Job.pid).Nodup :=
  h.sublist (List.filter_sublist.map _)

/-- One more child is collected, and its job is taken out. -/
theorem remove_without (h : (t.jobs.map Job.pid).Nodup) :
    ((without t ends).remove pid).2 = without t (ends ++ [(pid, e)]) := by
  have hjobs : ((without t ends).remove pid).2.jobs = (without t (ends ++ [(pid, e)])).jobs := by
    rw [JobTable.remove_jobs (nodup_without h), without, without, List.filter_filter]
    refine List.filter_congr fun job _ => Bool.eq_iff_iff.mpr ?_
    simp [and_comm, not_or]
  exact congrArg (JobTable.mk · t.lastId) hjobs

theorem lead?_without (h : pid ∉ ends.map Prod.fst) : (without t ends).lead? pid = t.lead? pid := by
  rw [JobTable.lead?, JobTable.lead?, without, List.find?_filter]
  congr 1
  funext job
  refine Bool.eq_iff_iff.mpr ?_
  rw [decide_eq_true_iff]
  exact ⟨fun hj => hj.2, fun hj => ⟨by rw [eq_of_beq hj]; simpa using h, hj⟩⟩

theorem led_append (t : JobTable) (ends : List (Pid × Ending)) (pid : Pid) (e : Ending) :
    led t (ends ++ [(pid, e)]) = led t ends ++ (t.lead? pid).toList := by
  rw [led, List.filterMap_append, List.filterMap_cons, List.filterMap_nil, led]
  cases t.lead? pid <;> rfl

theorem ensures_awaitAny : (awaitChange (-1) false).Ensures contract
    (fun r k' => (∃ pid e, pid ∈ k.there ∧ Told pid e r ∧ k' = k.collects [(pid, e)]) ∨
      (r = .ok .alive ∨ r = .error .noChild ∨ r = .error .interrupted) ∧ k' = k) k :=
  Prog.ensures_perform (pre_wait_any (fun pid e _ hp hr => .inl ⟨pid, e, hp, told_of_reported hr, rfl⟩)
    (.inr ⟨.inl rfl, rfl⟩) (.inr ⟨.inr (.inl rfl), rfl⟩) (.inr ⟨.inr (.inr rfl), rfl⟩))

/-- What is known between two children: those that were collected are gone, and their jobs are answered. -/
structure Between (k₀ : Sight) (ends : List (Pid × Ending)) (found : List Job) (k : Sight) : Prop where
  sight : k = (k₀.collects ends).stores (without k₀.jobs ends)
  named : ∀ x ∈ ends, x.2.status? ≠ none
  found : found = led k₀.jobs ends

theorem ensures_reap (h : (k.jobs.jobs.map Job.pid).Nodup) : Registry.reap.Ensures contract
    (fun r k' => ∃ ends table, Reaped k.jobs ends r table ∧ k' = (k.collects ends).stores table) k := by
  refine Prog.ensures_repeated (fun found k' => ∃ ends, Between k ends found k') ⟨[], ?_, by simp, rfl⟩ ?_
  · rw [Sight.collects_nil, without_nil]
    rfl
  rintro _ _ ⟨ends, rfl, hnamed, rfl⟩
  have hcollects : ∀ pid e, ((k.collects ends).stores (without k.jobs ends)).collects [(pid, e)] =
      (k.collects (ends ++ [(pid, e)])).stores (without k.jobs ends) := fun pid e => by
    rw [Sight.collects_stores, Sight.collects_collects]
  refine Prog.ensures_bind (ensures_awaitAny.mono ?_)
  rintro r k' (⟨pid, e, hpid, ⟨he, hp, -⟩ | he, rfl⟩ | ⟨rfl | rfl | rfl, rfl⟩)
  · -- A child that is still there was not collected before, so that its job is still in the table.
    have hnew : pid ∉ ends.map Prod.fst := hpid.2
    have hall : ∀ x ∈ ends ++ [(pid, e)], x.2.status? ≠ none := by
      refine List.forall_mem_append.mpr ⟨hnamed, List.forall_mem_singleton.mpr ?_⟩
      rw [he]
      exact Option.some_ne_none _
    rw [hcollects]
    simp only [hp]
    refine Prog.ensures_bind ((ensures_remove pid).mono ?_)
    rintro _ _ ⟨rfl, rfl⟩
    have hfound : ((without k.jobs ends).remove pid).1 = k.jobs.lead? pid := lead?_without hnew
    simp only [Sight.stores_jobs, hfound, Sight.stores_stores, remove_without (e := e) h]
    cases hl : k.jobs.lead? pid with
    | none => exact ⟨_, rfl, hall, by rw [led_append, hl]; exact (List.append_nil _).symm⟩
    | some job => exact ⟨_, rfl, hall, by rw [led_append, hl]; rfl⟩
  · -- The child is gone, and its job is not taken out.
    obtain ⟨signal, rfl, hsignal⟩ := Ending.status?_eq_none_iff.mp he
    exact ⟨_, _, .failed rfl hsignal hnamed, hcollects pid _⟩
  · exact ⟨ends, _, .all hnamed, rfl⟩
  · exact ⟨ends, _, .all hnamed, rfl⟩
  · exact ⟨ends, rfl, hnamed, rfl⟩

/-- Whatever children end, and whenever: if reaping returns, it has taken out the jobs of the children that it has
collected, in the order of the collection, and left the others in their order. The exception is a child that was ended
by a signal without a name. Reaping fails there, keeps the job of this child and answers none of the jobs before. (No
table that the shell makes lists two jobs with one leader.) -/
theorem reap_forgets {s s' : State} {r : Except Failure (List Job)} (h : (s.jobs.jobs.map Job.pid).Nodup)
    (hrun : Prog.Reaches surroundings (s, Registry.reap) (s', .done r)) :
    ∃ ends, s'.gone = s.gone ++ ends ∧ s'.forked = s.forked ∧ Reaped s.jobs ends r s'.jobs := by
  obtain ⟨ends, table, hreaped, hsight⟩ := Prog.Ensures.ends Ends.sight (ensures_reap h) hrun
  refine ⟨ends, congrArg Sight.gone hsight, congrArg Sight.forked hsight, ?_⟩
  rwa [show s'.jobs = table from congrArg Sight.jobs hsight]

/-! ### Two leaders, the second of them ended by a signal without a name -/

def namelessSignal : SignalNumber := ⟨34, by decide, by decide⟩

def endedJob : Job := ⟨1, 71, 71, ['a']⟩

def killedJob : Job := ⟨2, 72, 72, ['b']⟩

/-- The leaders of both jobs have ended and were not collected. -/
def twoEnded : State where
  phase? := Function.update (Function.update (fun _ => none) 71 (some (.ended (.exited 0)))) 72
    (some (.ended (.signaled namelessSignal)))
  jobs := ⟨[killedJob, endedJob], 2⟩
  forked := []
  gone := []

/-- The first leader is collected and its job taken out, then the second leader is collected, and reaping fails. -/
theorem reaches_twoEnded : ∃ s,
    Prog.Reaches surroundings (twoEnded, Registry.reap) (s, .done (.error (.reap .invalid))) ∧
    s.gone = [(71, .exited 0), (72, .signaled namelessSignal)] ∧ s.jobs.jobs = [killedJob] := by
  have h : Prog.Reaches surroundings (twoEnded, Registry.reap) (twoEnded, Registry.reap) := .refl
  replace h := h.tail .unroll
  replace h := h.tail (.call (c := .wait (-1) false) (r := .ok (.exited 71 0))
    ⟨71, .exited 0, .inl rfl, rfl, ⟨rfl, rfl⟩, rfl⟩)
  replace h := h.tail (.call (c := .acquireJobs) (r := ⟨[killedJob, endedJob], 2⟩) ⟨rfl, rfl⟩)
  replace h := h.tail (.call (c := .releaseJobs ⟨[killedJob], 2⟩) (r := ()) rfl)
  replace h := h.tail .unroll
  replace h := h.tail (.call (c := .wait (-1) false) (r := .ok (.signaled 72 34 false))
    ⟨72, .signaled namelessSignal, .inl rfl, rfl, ⟨rfl, namelessSignal, rfl, rfl⟩, rfl⟩)
  exact ⟨_, h, rfl, rfl⟩

theorem reap_forgets_twoEnded : ∃ s r, (twoEnded.jobs.jobs.map Job.pid).Nodup ∧
    Prog.Reaches surroundings (twoEnded, Registry.reap) (s, .done r) ∧ s.gone.length = 2 ∧
    ∃ ends, s.gone = ends ∧ Reaped twoEnded.jobs ends r s.jobs := by
  obtain ⟨s, hrun, hgone, -⟩ := reaches_twoEnded
  have hnodup : (twoEnded.jobs.jobs.map Job.pid).Nodup := by decide
  obtain ⟨ends, hends, -, hreaped⟩ := reap_forgets hnodup hrun
  exact ⟨s, _, hnodup, hrun, by rw [hgone]; rfl, ends, hends, hreaped⟩

/-- Reaping returns and has collected the leader of a job that is still in the table. A job that it took out is not
answered. -/
theorem reap_keeps_killedJob : ∃ s r, Prog.Reaches surroundings (twoEnded, Registry.reap) (s, .done r) ∧
    (∃ job ∈ s.jobs.jobs, job.pid ∈ s.gone.map Prod.fst) ∧
    ∃ job ∈ twoEnded.jobs.jobs, job ∉ s.jobs.jobs ∧ ∀ found, r = .ok found → job ∉ found := by
  obtain ⟨s, hrun, hgone, hjobs⟩ := reaches_twoEnded
  refine ⟨s, _, hrun, ⟨killedJob, ?_, ?_⟩, endedJob, ?_, ?_, nofun⟩
  · rw [hjobs]
    decide
  · rw [hgone]
    exact List.mem_cons_of_mem _ List.mem_cons_self
  · exact List.mem_cons_of_mem _ List.mem_cons_self
  · rw [hjobs]
    decide

end JobShell.Children
