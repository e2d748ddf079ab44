import JobShell.Proofs.Group.System
import JobShell.Proofs.Traversal

/-! # Which groups a launch asks for

The shell puts each child into the group of the first one before it forks the next, and each child asks for the same
group before it executes its program. The reaper has nothing to do with groups. -/

namespace JobShell.Groups
open Threads (Thread)

/-- What is known of a process of the launch, or of the reaper. -/
inductive Sight
  /-- The children so far, and whether the first of them was put into its group. -/
  | shell (pids : List Pid) (told : Bool)
  /-- The group that a child has to ask for, and whether it has. -/
  | child (group : Pid) (settled : Bool)
  | reaper

namespace Sight

/-- Who may make a call, and when. -/
def Permits : Call → Sight → Prop
  | .fork, shell pids told => pids = [] ∨ told = true
  | .setGroup pid g, shell pids told => pids.head? = some g ∧ pid ∈ pids ∧ (pid = g ∨ told = true)
  | .setGroup pid g, child group _ => pid = 0 ∧ g = group
  | .execute _, child _ settled => settled = true
  | .execute _, _ | .exit _, shell _ _ | .fork, child _ _ | .setGroup _ _, reaper => False
  | .wait _ _, child _ _ | .acquireJobs, child _ _ | .releaseJobs _, child _ _ | .fork, reaper => False
  | _, _ => True

/-- A new child has a number of its own. -/
def Allows : (c : Call) → c.Reply → Sight → Prop
  | .fork, .ok (.parent pid), shell pids _ => 0 < pid ∧ pid ∉ pids
  | _, _, _ => True

/-- What is known behind a call. A fork returns in both processes. -/
def note : (c : Call) → c.Reply → Sight → Sight
  | .fork, .ok (.parent pid), shell pids told => shell (pids ++ [pid]) told
  | .fork, .ok .child, shell pids _ => child (pids.headD 0) false
  | .setGroup _ _, _, shell pids _ => shell pids true
  | .setGroup _ _, _, child group _ => child group true
  | _, _, k => k

end Sight

def contract : Contract Sight where
  pre c P k := k.Permits c ∧ ∀ r, k.Allows c r → P r (k.note c r)
  mono hPQ h := ⟨h.1, fun r hr => hPQ r _ (h.2 r hr)⟩

variable {k : Sight} {pids : List Pid} {g : Pid} {told : Bool}

/-- A call that has nothing to do with children and groups. -/
def Silent : Call → Prop
  | .pipe | .openFile _ _ | .close _ | .duplicate _ _ | .write _ _ | .kill _ _ | .defaultSignal _
  | .unblockSignals => True
  | _ => False

theorem ignores_of_silent (c : Call) (h : Silent c) : contract.Ignores c := by
  intro P k hP
  cases c <;> first | exact h.elim | exact ⟨trivial, fun r _ => hP r⟩

theorem ensures_silent {c : Call} (h : Silent c) : (Prog.perform c).Ensures contract (fun _ k' => k' = k) k :=
  ignores_of_silent c h fun _ => rfl

/-! ### The children -/

theorem ensures_move (source target : Descriptor) :
    (Child.move source target).Ensures contract (fun _ k' => k' = k) k := by
  unfold Child.move
  split
  · exact Prog.ensures_pure rfl
  · refine Prog.ensures_perform (ignores_of_silent (.duplicate _ _) trivial fun r => ?_)
    cases r with
    | error e => exact Prog.ensures_pure rfl
    | ok _ => exact ensures_silent trivial

theorem ensures_openAs (path : Bytes) (access : Access) (target : Descriptor) :
    (Child.openAs path access target).Ensures contract (fun _ k' => k' = k) k := by
  refine Prog.ensures_perform (ignores_of_silent (.openFile _ _) trivial fun r => ?_)
  cases r with
  | error e => exact Prog.ensures_pure rfl
  | ok d => exact ensures_move d target

theorem ensures_place {α : Type} (what : α → Bytes) {step : α → Prog (Except Errno Unit)} (a : Option α)
    (h : ∀ a, (step a).Ensures contract (fun _ k' => k' = k) k) :
    (Child.place what step a).run.Ensures contract (fun _ k' => k' = k) k := by
  cases a with
  | none => exact Prog.ensures_pure rfl
  | some a =>
    refine Prog.ensures_bind ((h a).mono ?_)
    rintro (e | _) _ rfl <;> exact Prog.ensures_pure rfl

theorem ensures_placeStreams (i : Invocation) (w : Wiring) :
    (Child.placeStreams i w).run.Ensures contract (fun _ k' => k' = k) k := by
  have andThen : ∀ {p q : ExceptT Child.Misplaced Prog Unit}, p.run.Ensures contract (fun _ k' => k' = k) k →
      q.run.Ensures contract (fun _ k' => k' = k) k →
      (p >>= fun _ => q).run.Ensures contract (fun _ k' => k' = k) k := fun hp hq =>
    Prog.ensures_run_bind (hp.mono fun r _ hr => by
      subst hr
      cases r with
      | error m => rfl
      | ok _ => exact hq)
  exact andThen (ensures_place _ _ fun _ => ensures_move _ _) (andThen (ensures_place _ _ fun _ => ensures_move _ _)
    (andThen (ensures_place _ _ fun _ => ensures_openAs _ _ _) (ensures_place _ _ fun _ => ensures_openAs _ _ _)))

theorem ensures_die (what : Bytes) (reason : Text) (code : Int) :
    (Child.die what reason code).Ensures contract (fun _ _ => True) (.child g told) :=
  Launch.ensures_die_of (· = .child g told) rfl (fun _ _ hk => ignores_of_silent (.write _ _) trivial fun _ => hk)
    fun _ hk => hk ▸ ⟨trivial, fun e => e.elim⟩

/-- A child asks for its group before it executes its program. -/
theorem ensures_run {i : Invocation} {w : Wiring} (hw : w.group = some g) :
    (Child.run i w).Ensures contract (fun _ _ => True) (.child g false) := by
  have hsettle : (Child.settle w).Ensures contract (fun _ k' => k' = .child g true) (.child g false) := by
    obtain ⟨input, output, spare, group⟩ := w
    cases hw
    refine ⟨⟨rfl, rfl⟩, fun _ _ => ?_⟩
    cases spare with
    | none => exact Prog.ensures_pure rfl
    | some d => exact Prog.ensures_perform (ignores_of_silent (.close _) trivial fun _ => Prog.ensures_pure rfl)
  refine Prog.ensures_bind (hsettle.mono ?_)
  rintro _ _ rfl
  refine Prog.ensures_bind ((ensures_placeStreams i w).mono ?_)
  rintro (m | _) _ rfl
  · exact ensures_die _ _ _
  · refine Prog.ensures_bind ((Launch.ensures_defaultSignals_ignored (fun s =>
      ignores_of_silent (.defaultSignal s) trivial) _).mono ?_)
    rintro _ _ rfl
    refine Prog.ensures_perform (ignores_of_silent .unblockSignals trivial fun _ => ?_)
    exact ⟨rfl, fun e _ => ensures_die _ _ _⟩

/-! ### The shell -/

/-- The shell has put the first child into its group, if there is one, and the next child is to join it. -/
inductive Told : List Pid → Option Pid → Sight → Prop
  | none : Told [] (some 0) (.shell [] false)
  | some {first : Pid} {rest : List Pid} (hpos : 0 < first) :
      Told (first :: rest) (some first) (.shell (first :: rest) true)

theorem ensures_start {w : Wiring} (i : Invocation) (h : Told pids w.group k) :
    (Launch.start i w).Ensures contract (fun r k' => match r with
      | .ok pid => Told (pids ++ [pid]) (Launch.groupAfter w.group pid) k'
      | .error _ => Told pids w.group k') k := by
  obtain ⟨input, output, spare, group⟩ := w
  cases h with
  | none =>
    refine ⟨.inl rfl, fun r hr => ?_⟩
    match r, hr with
    | .error e, _ => exact Prog.ensures_pure .none
    | .ok .child, _ => exact Prog.ensures_never (ensures_run rfl)
    | .ok (.parent pid), hr =>
      exact ⟨⟨rfl, List.mem_singleton_self _, .inl rfl⟩, fun _ _ => Prog.ensures_pure (.some hr.1)⟩
  | @some first rest hpos =>
    have hne : first ≠ 0 := Int.ne_of_gt hpos
    refine ⟨.inr rfl, fun r hr => ?_⟩
    match r, hr with
    | .error e, _ => exact Prog.ensures_pure (.some hpos)
    | .ok .child, _ => exact Prog.ensures_never (ensures_run rfl)
    | .ok (.parent pid), _ =>
      simp only [Launch.groupAfter, Option.map_some, if_neg hne]
      have hhead : (first :: rest ++ [pid]).head? = some (if first = 0 then pid else first) := by
        rw [if_neg hne]
        rfl
      exact ⟨⟨hhead, List.mem_append_right _ (List.mem_singleton_self _), .inr rfl⟩, fun _ _ => .some hpos⟩

theorem ensures_waitFor (pid : Pid) :
    (waitFor pid).Ensures contract (fun _ k' => k' = .shell pids told) (.shell pids told) := by
  refine Prog.ensures_repeated (fun _ k' => k' = .shell pids told) rfl ?_
  rintro _ _ rfl
  have hchange : (awaitChange pid true).Ensures contract (fun _ k' => k' = .shell pids told) (.shell pids told) :=
    Prog.ensures_perform ⟨trivial, fun r _ => by cases r <;> exact Prog.ensures_pure rfl⟩
  refine Prog.ensures_bind (hchange.mono ?_)
  rintro (e | change) _ rfl
  · show (if e = .interrupted then _ else if e = .noChild then _ else _ : Prog _).Ensures _ _ _
    split
    · exact rfl
    · split <;> exact rfl
  · cases change <;> exact rfl

theorem ensures_abandon (abandoned : List Pid) :
    (Launch.abandon abandoned).Ensures contract (fun _ k' => k' = .shell pids told) (.shell pids told) := by
  induction abandoned with
  | nil => exact Prog.ensures_pure rfl
  | cons pid abandoned ih =>
    refine Prog.ensures_perform (ignores_of_silent (.kill _ _) trivial fun _ => ?_)
    refine Prog.ensures_bind ((ensures_waitFor pid).mono ?_)
    rintro _ _ rfl
    exact ih

theorem Told.sight {group : Option Pid} (h : Told pids group k) : ∃ told, k = .shell pids told := by
  cases h <;> exact ⟨_, rfl⟩

theorem ensures_spawn (stages : List Invocation) : (Launch.spawn true stages).Ensures contract
    (fun r k' => ∃ pids told, k' = .shell pids told ∧ ∀ spawned, r = .ok spawned → spawned = pids ∧
      pids.length = stages.length) (.shell [] false) := by
  refine Prog.ensures_bind ((Launch.ensures_spawnStages_of_invariant Told (ignores_of_silent .pipe trivial)
    (fun d => ignores_of_silent (.close d) trivial) ensures_start .none).mono ?_)
  rintro ⟨pids, failure⟩ k' ⟨⟨group, h⟩, hend⟩
  obtain ⟨told, rfl⟩ := h.sight
  rcases hend with ⟨rfl, hl⟩ | ⟨⟨e, hf⟩, -⟩
  · refine Prog.ensures_pure ⟨pids, told, rfl, fun spawned hs => ?_⟩
    cases hs
    exact ⟨rfl, hl⟩
  · obtain ⟨f, rfl⟩ : ∃ f, failure = some f := by rcases hf with rfl | rfl <;> exact ⟨_, rfl⟩
    refine Prog.ensures_bind ((ensures_abandon pids).mono ?_)
    rintro _ _ rfl
    exact Prog.ensures_pure ⟨pids, told, rfl, fun _ hs => by cases hs⟩

/-- A launch that makes a job has a child for each stage; the job is led by the last and named by the first. -/
def Launches (p : Pipeline) (r : Except Failure Launched) (k : Sight) : Prop :=
  ∃ pids told, k = .shell pids told ∧ ∀ job, r = .ok (.background job) →
    pids.length = p.stages.length ∧ pids.head? = some job.group ∧ pids.getLast? = some job.pid

theorem ensures_launch {p : Pipeline} (hp : p.background = true) :
    (launch p).Ensures contract (Launches p) (.shell [] false) := by
  have hnone : ∀ {r k'} {pids told}, k' = Sight.shell pids told → (∀ job, r ≠ .ok (.background job)) →
      Launches p r k' := fun hk hr => ⟨_, _, hk, fun job hj => absurd hj (hr job)⟩
  simp only [launch, hp]
  split
  · exact Prog.ensures_pure (hnone rfl nofun)
  · cases hstages : p.stages.mapM Invocation.ofStage with
    | error f => exact Prog.ensures_pure (hnone rfl nofun)
    | ok stages =>
      have hl : stages.length = p.stages.length := (mapM_eq_ok_iff.mp hstages).length_eq.symm
      refine Prog.ensures_perform ⟨trivial, fun table _ => Prog.ensures_bind ((ensures_spawn stages).mono ?_)⟩
      rintro (f | spawned) _ ⟨pids, told, rfl, hspawned⟩
      · exact Prog.ensures_perform ⟨trivial, fun _ _ => Prog.ensures_pure (hnone rfl nofun)⟩
      · obtain ⟨rfl, hlength⟩ := hspawned _ rfl
        cases spawned with
        | nil => exact Prog.ensures_perform ⟨trivial, fun _ _ => Prog.ensures_pure (hnone rfl nofun)⟩
        | cons first rest =>
          refine Prog.ensures_perform ⟨trivial, fun _ _ => Prog.ensures_pure ⟨_, _, rfl, fun job hj => ?_⟩⟩
          cases hj
          exact ⟨hlength.trans hl, rfl, List.getLast?_eq_some_getLast _⟩

/-! ### The reaper -/

theorem ensures_reap : Registry.reap.Ensures contract (fun _ _ => True) .reaper := by
  refine Prog.ensures_repeated (fun _ k' => k' = .reaper) rfl ?_
  rintro found _ rfl
  have hchange : (awaitChange (-1) false).Ensures contract (fun _ k' => k' = .reaper) .reaper :=
    Prog.ensures_perform ⟨trivial, fun r _ => by cases r <;> exact Prog.ensures_pure rfl⟩
  have hremove : ∀ pid, (Registry.remove pid).Ensures contract (fun _ k' => k' = .reaper) .reaper := fun pid =>
    Prog.ensures_perform ⟨trivial, fun _ _ => Prog.ensures_perform ⟨trivial, fun _ _ => Prog.ensures_pure rfl⟩⟩
  refine Prog.ensures_bind (hchange.mono ?_)
  rintro (e | change) _ rfl
  · show (if e = .noChild then _ else if e = .interrupted then _ else _ : Prog _).Ensures _ _ _
    split
    · trivial
    · split <;> trivial
  · cases change with
    | alive => exact Prog.ensures_pure trivial
    | _ =>
      refine Prog.ensures_bind ((hremove _).mono ?_)
      rintro (_ | job) _ rfl <;> exact Prog.ensures_pure rfl

end JobShell.Groups
