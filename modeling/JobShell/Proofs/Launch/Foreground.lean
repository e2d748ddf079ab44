import JobShell.Launch.Basic
import JobShell.Proofs.Job.Children
import JobShell.Proofs.Traversal

/-! # Which children a launch in the foreground leaves

A launch that cannot fork all stages collects those that it has forked. A launch that has forked all of them waits for
one after the other, and the first failure ends the waiting: behind a stage that was ended by a signal without a name,
the stages are not waited for. -/

namespace JobShell.Children

/-- What waiting for processes answers, and the ends that it collects. -/
inductive Waited (pids : List Pid) : List (Pid × Ending) → Except Failure (List (Option Status)) → Prop
  | all {ends : List (Pid × Ending)} (hpids : pids = ends.map Prod.fst) (hnamed : ∀ x ∈ ends, x.2.status? ≠ none) :
      Waited pids ends (.ok (ends.map fun x => x.2.status?))
  | failed {before : List (Pid × Ending)} {pid : Pid} {signal : SignalNumber} {after : List Pid}
      (hpids : pids = before.map Prod.fst ++ pid :: after) (hnamed : ∀ x ∈ before, x.2.status? ≠ none)
      (hsignal : 32 ≤ signal.val) : Waited pids (before ++ [(pid, .signaled signal)]) (.error (.wait pid .invalid))

/-- What a launch in the foreground answers, and the children that it has forked and collected. -/
inductive Outcome (p : Pipeline) : List Pid → List (Pid × Ending) → Except Failure Launched → Prop
  /-- Nothing is forked for a stage that the kernel does not take. -/
  | refused {f : Failure} (h : p.stages.mapM Invocation.ofStage = .error f) : Outcome p [] [] (.error f)
  | abandoned {pids : List Pid} {ends : List (Pid × Ending)} {f : Failure} (hlength : pids.length < p.stages.length)
      (hpids : pids = ends.map Prod.fst) (hf : ∃ e, f = .pipe e ∨ f = .fork e) : Outcome p pids ends (.error f)
  | waited {pids : List Pid} {ends : List (Pid × Ending)} {r : Except Failure (List (Option Status))}
      (hlength : pids.length = p.stages.length) (h : Waited pids ends r) : Outcome p pids ends (r.map .foreground)

variable {k : Sight} {pid : Pid} {pids : List Pid} {ends : List (Pid × Ending)}

theorem Waited.cons {e : Ending} {status : Status} {r : Except Failure (List (Option Status))}
    (he : e.status? = some status) (h : Waited pids ends r) :
    Waited (pid :: pids) ((pid, e) :: ends) (r.map (some status :: ·)) := by
  have hnamed : ∀ {l : List (Pid × Ending)}, (∀ x ∈ l, x.2.status? ≠ none) → ∀ x ∈ (pid, e) :: l, x.2.status? ≠ none :=
    fun hl => List.forall_mem_cons.mpr ⟨by rw [he]; exact Option.some_ne_none _, hl⟩
  cases h with
  | all hpids hall =>
    rw [← he]
    exact .all (congrArg (pid :: ·) hpids) (hnamed hall)
  | failed hpids hbefore hsignal => exact .failed (congrArg (pid :: ·) hpids) (hnamed hbefore) hsignal

theorem ensures_waitAll (hown : k.Owns pids) :
    (waitAll pids).Ensures contract (fun r k' => ∃ ends, Waited pids ends r ∧ k' = k.collects ends) k := by
  induction pids generalizing k with
  | nil => exact Prog.ensures_pure ⟨[], .all rfl (by simp), (Sight.collects_nil k).symm⟩
  | cons pid pids ih =>
    refine Prog.ensures_bind ((ensures_waitFor hown).mono ?_)
    rintro _ _ ⟨e, rfl, rfl⟩
    rw [Ending.waited]
    cases he : e.status? with
    | none =>
      -- The first failure ends the waiting, and nothing is known of the children behind.
      obtain ⟨signal, rfl, hsignal⟩ := Ending.status?_eq_none_iff.mp he
      have hfirst : Waited (pid :: pids) ([] ++ [(pid, .signaled signal)]) _ := .failed rfl (by simp) hsignal
      exact Prog.ensures_pure ⟨_, hfirst, rfl⟩
    | some status =>
      refine Prog.ensures_bind ((ih (hown.collects e)).mono ?_)
      rintro (f | statuses) _ ⟨ends, hw, rfl⟩
      · exact Prog.ensures_pure ⟨_, hw.cons he, Sight.collects_collects k _ _⟩
      · exact Prog.ensures_pure ⟨_, hw.cons he, Sight.collects_collects k _ _⟩

theorem ensures_start {k₀ : Sight} (i : Invocation) (w : Wiring) (h : k = k₀.forks pids ∧ k.Owns pids) :
    (Launch.start i w).Ensures contract (fun r k' => match r with
      | .ok pid => k' = k₀.forks (pids ++ [pid]) ∧ k'.Owns (pids ++ [pid])
      | .error _ => k' = k₀.forks pids ∧ k'.Owns pids) k := by
  obtain ⟨rfl, hown⟩ := h
  refine Prog.ensures_perform (pre_fork (fun pid hpos hnew => ?_) fun e => ⟨rfl, hown⟩)
  have hnext := hown.forks hpos hnew
  rw [Sight.forks_forks] at hnext ⊢
  obtain ⟨input, output, spare, group⟩ := w
  cases group with
  | none => exact Prog.ensures_pure ⟨rfl, hnext⟩
  | some group => exact Prog.ensures_perform (ignores_of_quiet (.setGroup _ _) trivial fun _ => ⟨rfl, hnext⟩)

theorem ensures_abandon (hown : k.Owns pids) : (Launch.abandon pids).Ensures contract
    (fun _ k' => ∃ ends, pids = ends.map Prod.fst ∧ k' = k.collects ends) k := by
  induction pids generalizing k with
  | nil => exact Prog.ensures_pure ⟨[], rfl, (Sight.collects_nil k).symm⟩
  | cons pid pids ih =>
    refine Prog.ensures_perform (ignores_of_quiet (.kill _ _) trivial fun _ => ?_)
    refine Prog.ensures_bind ((ensures_waitFor hown).mono ?_)
    rintro _ _ ⟨e, -, rfl⟩
    refine (ih (hown.collects e)).mono ?_
    rintro _ _ ⟨ends, rfl, rfl⟩
    exact ⟨(pid, e) :: ends, rfl, Sight.collects_collects k _ _⟩

/-- Either all stages have been forked, or fewer, which have been collected then. -/
theorem ensures_spawn {grouped : Bool} {stages : List Invocation} : (Launch.spawn grouped stages).Ensures contract
    (fun r k' => ∃ pids, pids.Nodup ∧
      (r = .ok pids ∧ pids.length = stages.length ∧ k' = k.forks pids ∧ k'.Owns pids ∨
        ∃ f ends, r = .error f ∧ (∃ e, f = .pipe e ∨ f = .fork e) ∧ pids.length < stages.length ∧
          pids = ends.map Prod.fst ∧ k' = (k.forks pids).collects ends)) k := by
  refine Prog.ensures_bind ((Launch.ensures_spawnStages_of_invariant
    (fun pids _ k' => k' = k.forks pids ∧ k'.Owns pids) (ignores_of_quiet .pipe trivial)
    (fun d => ignores_of_quiet (.close d) trivial) (fun i => ensures_start i _)
    ⟨(Sight.forks_nil k).symm, Sight.Owns.nil k⟩).mono ?_)
  rintro ⟨pids, failure⟩ _ ⟨⟨_, rfl, hown⟩, hend⟩
  rw [List.nil_append] at hown ⊢
  rcases hend with ⟨rfl, hl⟩ | ⟨⟨e, hf⟩, hl⟩
  · exact Prog.ensures_pure ⟨pids, hown.nodup, .inl ⟨rfl, hl, rfl, hown⟩⟩
  · -- Abandoning looks at no answer, so that it collects them all.
    obtain ⟨f, rfl⟩ : ∃ f, failure = some f := by rcases hf with rfl | rfl <;> exact ⟨_, rfl⟩
    refine Prog.ensures_bind ((ensures_abandon hown).mono ?_)
    rintro _ _ ⟨ends, hpids, rfl⟩
    exact Prog.ensures_pure ⟨pids, hown.nodup, .inr ⟨f, ends, rfl, ⟨e, hf.imp Option.some.inj Option.some.inj⟩, hl,
      hpids, rfl⟩⟩

theorem ensures_launch {p : Pipeline} (hp : p.background = false) : (launch p).Ensures contract
    (fun r k' => ∃ pids ends, pids.Nodup ∧ Outcome p pids ends r ∧ k' = (k.forks pids).collects ends) k := by
  have hnone : k = (k.forks []).collects [] := by rw [Sight.forks_nil, Sight.collects_nil]
  simp only [launch, hp, if_neg Bool.false_ne_true]
  split
  · rename_i hempty
    have hlength : ([] : List Pid).length = p.stages.length :=
      congrArg List.length (List.isEmpty_iff.mp hempty).symm
    exact Prog.ensures_pure ⟨[], [], List.nodup_nil, .waited hlength (.all rfl (by simp)), hnone⟩
  · cases hstages : p.stages.mapM Invocation.ofStage with
    | error f => exact Prog.ensures_pure ⟨[], [], List.nodup_nil, .refused hstages, hnone⟩
    | ok stages =>
      have hl : stages.length = p.stages.length := (mapM_eq_ok_iff.mp hstages).length_eq.symm
      refine Prog.ensures_bind (ensures_spawn.mono ?_)
      rintro _ _ ⟨pids, hnodup, ⟨rfl, hlength, rfl, hown⟩ | ⟨f, ends, rfl, hf, hlength, hpids, rfl⟩⟩
      · refine Prog.ensures_bind ((ensures_waitAll hown).mono ?_)
        rintro (f | statuses) _ ⟨ends, hw, rfl⟩
        · exact Prog.ensures_pure ⟨pids, ends, hnodup, .waited (hlength.trans hl) hw, rfl⟩
        · exact Prog.ensures_pure ⟨pids, ends, hnodup, .waited (hlength.trans hl) hw, rfl⟩
      · exact Prog.ensures_pure ⟨pids, ends, hnodup, .abandoned (hl ▸ hlength) hpids hf, rfl⟩

/-- Whatever way the children end in, and in which order: if a launch in the foreground returns, it has collected all
children that it has forked. The exception is a stage that was ended by a signal without a name. The launch fails there,
and the children of the stages behind it are not collected. -/
theorem launch_foreground_collects {p : Pipeline} {s s' : State} {r : Except Failure Launched}
    (hp : p.background = false) (hrun : Prog.Reaches surroundings (s, launch p) (s', .done r)) :
    ∃ pids ends, s'.forked = s.forked ++ pids ∧ s'.gone = s.gone ++ ends ∧ pids.Nodup ∧ Outcome p pids ends r ∧
      ∀ pid ∈ pids, s'.phase? pid = none ↔ pid ∈ ends.map Prod.fst := by
  obtain ⟨pids, ends, hnodup, houtcome, hsight⟩ := Prog.Ensures.ends Ends.sight (ensures_launch hp) hrun
  refine ⟨pids, ends, congrArg Sight.forked hsight, congrArg Sight.gone hsight, hnodup, houtcome, fun pid hpid => ?_⟩
  have hthere : pid ∈ s'.sight.there ↔ (pid ∈ s.sight.there ∨ pid ∈ pids) ∧ pid ∉ ends.map Prod.fst := by
    rw [hsight]
    rfl
  exact not_iff_not.mp (hthere.trans (and_iff_right (.inr hpid)))

/-! ### Two stages, the first of them ended by a signal without a name -/

theorem nameless_bounds : 1 ≤ 34 ∧ 34 ≤ 64 := by decide

def namelessEnd : Ending := .signaled ⟨34, nameless_bounds⟩

/-- A stage without arguments and redirections. -/
def bareStage (name : Text) : Stage := ⟨[name], none, none, by simp⟩

def twoStages : Pipeline := ⟨[bareStage ['a'], bareStage ['b']], false⟩

def childless : State := ⟨fun _ => none, .empty, [], []⟩

/-- The first stage is collected, and the launch fails while the second stage is still running. -/
theorem reaches_failedWait : ∃ s, Prog.Reaches surroundings (childless, launch twoStages)
    (s, .done (.error (.wait 71 .invalid))) ∧ s.forked = [71, 72] ∧ s.gone = [(71, namelessEnd)] ∧
    s.phase? 72 = some .running := by
  have h : Prog.Reaches surroundings (childless, launch twoStages) (childless, launch twoStages) := .refl
  replace h := h.tail (.call (c := .pipe) (r := .ok (3, 4)) rfl)
  replace h := h.tail (.call (c := .fork) (r := .ok (.parent 71)) ⟨by decide, rfl, rfl⟩)
  replace h := h.tail (.call (c := .close 4) (r := .ok ()) rfl)
  replace h := h.tail (.call (c := .fork) (r := .ok (.parent 72)) ⟨by decide, rfl, rfl⟩)
  replace h := h.tail (.call (c := .close 3) (r := .ok ()) rfl)
  replace h := h.tail .unroll
  replace h := h.tail (.drift ⟨71, namelessEnd, rfl, rfl⟩)
  replace h := h.tail (.call (c := .wait 71 true) (r := .ok (.signaled 71 34 false))
    ⟨71, namelessEnd, .inr rfl, rfl, ⟨rfl, _, rfl, rfl⟩, rfl⟩)
  exact ⟨_, h, rfl, rfl, rfl⟩

theorem launch_foreground_collects_failedWait : ∃ s r, twoStages.background = false ∧
    Prog.Reaches surroundings (childless, launch twoStages) (s, .done r) ∧
    ∃ pids ends, s.forked = pids ∧ s.gone = ends ∧ Outcome twoStages pids ends r ∧
      ∀ pid ∈ pids, s.phase? pid = none ↔ pid ∈ ends.map Prod.fst := by
  obtain ⟨s, hrun, -, -, -⟩ := reaches_failedWait
  obtain ⟨pids, ends, hforked, hgone, -, houtcome, hcollected⟩ := launch_foreground_collects rfl hrun
  exact ⟨s, _, rfl, hrun, pids, ends, hforked, hgone, houtcome, hcollected⟩

/-- A launch in the foreground returns, and a child that it has forked has not even ended. -/
theorem launch_foreground_leaves_running : ∃ s r, twoStages.background = false ∧
    Prog.Reaches surroundings (childless, launch twoStages) (s, .done r) ∧
    ∃ pid ∈ s.forked, pid ∉ s.gone.map Prod.fst ∧ s.phase? pid = some .running := by
  obtain ⟨s, hrun, hforked, hgone, hrunning⟩ := reaches_failedWait
  refine ⟨s, _, rfl, hrun, 72, ?_, ?_, hrunning⟩
  · rw [hforked]
    decide
  · rw [hgone]
    exact fun h => absurd (List.mem_singleton.mp h) (by decide)

end JobShell.Children
