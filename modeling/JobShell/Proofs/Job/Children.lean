import JobShell.Proofs.Job.Threads
import JobShell.Proofs.Launch.Stages
import JobShell.Proofs.Prog.Run
import Mathlib.Order.BooleanAlgebra.Set

/-! # The children of a thread that is alone

A thread that is the only one has the children and the job table for itself. Its children end at any time and in any
way, also by a signal without a name, and a child that has ended stays until it is collected. -/

namespace JobShell.Children
open Threads (Awaits)

/-- The number of a signal. -/
abbrev SignalNumber := { n : Nat // 1 ≤ n ∧ n ≤ 64 }

/-- How a child ends. -/
inductive Ending
  | exited (code : Int)
  | signaled (signal : SignalNumber)

/-- The end of a child as the shell knows it; there is none if the signal has no name. -/
def Ending.status? : Ending → Option Status
  | exited code => some (.exited code)
  | signaled n => (Signal.ofNumber? n).map .signaled

/-- The end of a child as one number: its exit code, or 128 and the number of the signal. -/
def Ending.code : Ending → Int
  | exited code => code
  | signaled n => 128 + n.val

/-- The kernel reports the end of a child. -/
def Ending.Reported (e : Ending) (pid : Pid) : Report → Prop
  | .exited p code => p = pid ∧ e = .exited code
  | .signaled p n _ => p = pid ∧ ∃ signal : SignalNumber, e = .signaled signal ∧ signal.val = n
  | _ => False

/-- The signals from 32 on have no name. -/
theorem ofNumber?_eq_none_iff (n : SignalNumber) : Signal.ofNumber? n = none ↔ 32 ≤ n.val := by
  have h : ∀ i : Fin 65, 1 ≤ i.val → (Signal.ofNumber? i = none ↔ 32 ≤ i.val) := by decide
  exact h ⟨n, Nat.lt_succ_of_le n.2.2⟩ n.2.1

theorem Ending.status?_eq_none_iff {e : Ending} :
    e.status? = none ↔ ∃ signal : SignalNumber, e = .signaled signal ∧ 32 ≤ signal.val := by
  cases e with
  | exited code => simp [status?]
  | signaled n => simp [status?, ofNumber?_eq_none_iff]

theorem number_of_ofNumber? (n : SignalNumber) : ∀ s, Signal.ofNumber? n = some s → s.number = n := by
  have h : ∀ i : Fin 65, ∀ s, Signal.ofNumber? i = some s → s.number = i := by decide
  exact h ⟨n, Nat.lt_succ_of_le n.2.2⟩

theorem Ending.code_of_status? {e : Ending} {status : Status} (h : e.status? = some status) : status.code = e.code := by
  cases e with
  | exited code =>
    cases h
    rfl
  | signaled n =>
    obtain ⟨signal, hsignal, rfl⟩ := Option.map_eq_some_iff.mp h
    rw [Status.code, number_of_ofNumber? n signal hsignal, code]

inductive Phase
  | running
  | ended (e : Ending)

/-- The children that were not collected, the job table, and a record of what the thread has done. -/
structure State where
  phase? : Pid → Option Phase
  jobs : JobTable
  /-- The children that were forked, in this order. -/
  forked : List Pid
  /-- The children that were collected, in this order. -/
  gone : List (Pid × Ending)

namespace State

def bear (s : State) (pid : Pid) : State :=
  { s with phase? := Function.update s.phase? pid (some .running), forked := s.forked ++ [pid] }

def finish (s : State) (pid : Pid) (e : Ending) : State :=
  { s with phase? := Function.update s.phase? pid (some (.ended e)) }

def collect (s : State) (pid : Pid) (e : Ending) : State :=
  { s with phase? := Function.update s.phase? pid none, gone := s.gone ++ [(pid, e)] }

end State

/-- How a call can be replied to, and what it does to the children and the table. -/
def Answer : (c : Call) → State → c.Reply → State → Prop
  | .fork, s, .ok (.parent pid), s' => 0 < pid ∧ s.phase? pid = none ∧ s' = s.bear pid
  | .fork, _, .ok .child, _ => False
  | .wait target block, s, .ok .alive, s' => block = false ∧ (∃ pid, Awaits target pid ∧ s.phase? pid = some .running) ∧
    (∀ pid, Awaits target pid → ∀ e, s.phase? pid ≠ some (.ended e)) ∧ s' = s
  | .wait target _, s, .ok report, s' => ∃ pid e, Awaits target pid ∧ s.phase? pid = some (.ended e) ∧
    e.Reported pid report ∧ s' = s.collect pid e
  | .wait target _, s, .error e, s' => s' = s ∧ (e = .interrupted ∨
    e = .noChild ∧ ∀ pid, Awaits target pid → s.phase? pid = none)
  | .acquireJobs, s, table, s' => table = s.jobs ∧ s' = s
  | .releaseJobs table, s, _, s' => s' = { s with jobs := table }
  | _, s, _, s' => s' = s

/-- A running child ends. -/
def Ends (s s' : State) : Prop := ∃ pid e, s.phase? pid = some .running ∧ s' = s.finish pid e

def surroundings : Surroundings State := ⟨Answer, Ends⟩

/-! ### What the thread sees -/

/-- What does not change by itself: which children there are, but not what they do. -/
structure Sight where
  there : Set Pid
  jobs : JobTable
  forked : List Pid
  gone : List (Pid × Ending)

def State.sight (s : State) : Sight := ⟨{pid | s.phase? pid ≠ none}, s.jobs, s.forked, s.gone⟩

namespace Sight

def forks (k : Sight) (pids : List Pid) : Sight :=
  { k with there := k.there ∪ {pid | pid ∈ pids}, forked := k.forked ++ pids }

def collects (k : Sight) (ends : List (Pid × Ending)) : Sight :=
  { k with there := k.there \ {pid | pid ∈ ends.map Prod.fst}, gone := k.gone ++ ends }

def stores (k : Sight) (jobs : JobTable) : Sight := { k with jobs }

theorem forks_nil (k : Sight) : k.forks [] = k := by
  simp [forks]

theorem forks_forks (k : Sight) (pids pids' : List Pid) : (k.forks pids).forks pids' = k.forks (pids ++ pids') := by
  simp [forks, Set.union_assoc, Set.ofPred_or]

theorem collects_nil (k : Sight) : k.collects [] = k := by
  simp [collects, Set.sdiff_empty]

theorem collects_collects (k : Sight) (ends ends' : List (Pid × Ending)) :
    (k.collects ends).collects ends' = k.collects (ends ++ ends') := by
  simp [collects, Set.sdiff_sdiff, Set.ofPred_or, List.append_assoc]

theorem collects_stores (k : Sight) (jobs : JobTable) (ends : List (Pid × Ending)) :
    (k.stores jobs).collects ends = (k.collects ends).stores jobs := rfl

theorem stores_jobs (k : Sight) (jobs : JobTable) : (k.stores jobs).jobs = jobs := rfl

theorem stores_stores (k : Sight) (jobs jobs' : JobTable) : (k.stores jobs).stores jobs' = k.stores jobs' := rfl

end Sight

theorem sight_bear (s : State) (pid : Pid) : (s.bear pid).sight = s.sight.forks [pid] := by
  have h : {q | (s.bear pid).phase? q ≠ none} = {q | s.phase? q ≠ none} ∪ {q | q ∈ [pid]} := by
    ext q
    by_cases hq : q = pid <;> simp [State.bear, Function.update_apply, hq]
  simp only [State.sight, Sight.forks, h]
  rfl

theorem sight_collect (s : State) (pid : Pid) (e : Ending) : (s.collect pid e).sight = s.sight.collects [(pid, e)] := by
  have h : {q | (s.collect pid e).phase? q ≠ none} = {q | s.phase? q ≠ none} \ {q | q ∈ [(pid, e)].map Prod.fst} := by
    ext q
    by_cases hq : q = pid <;> simp [State.collect, Function.update_apply, hq]
  simp only [State.sight, Sight.collects, h]
  rfl

/-- The end of a child does not change which children there are. -/
theorem Ends.sight {s s' : State} (h : Ends s s') : s'.sight = s.sight := by
  obtain ⟨pid, e, hp, rfl⟩ := h
  have h : {q | (s.finish pid e).phase? q ≠ none} = {q | s.phase? q ≠ none} := by
    ext q
    by_cases hq : q = pid <;> simp [State.finish, Function.update_apply, hq, hp]
  simp only [State.sight, h]
  rfl

abbrev contract : Contract Sight := surroundings.contract State.sight

/-! ### Processes to be waited for -/

variable {k : Sight} {pid : Pid} {pids : List Pid}

/-- The processes are different children that were not collected. -/
structure Sight.Owns (k : Sight) (pids : List Pid) : Prop where
  there : ∀ pid ∈ pids, pid ∈ k.there
  pos : ∀ pid ∈ pids, 0 < pid
  nodup : pids.Nodup

namespace Sight.Owns

theorem nil (k : Sight) : k.Owns [] :=
  ⟨by simp, by simp, List.nodup_nil⟩

/-- One more child is forked. -/
theorem forks (h : k.Owns pids) (hpos : 0 < pid) (hnew : pid ∉ k.there) : (k.forks [pid]).Owns (pids ++ [pid]) where
  there := List.forall_mem_append.mpr ⟨fun q hq => .inl (h.there q hq), fun _ hq => .inr hq⟩
  pos := List.forall_mem_append.mpr ⟨h.pos, List.forall_mem_singleton.mpr hpos⟩
  nodup := List.nodup_append.mpr ⟨h.nodup, List.pairwise_singleton _ _, fun q hq _ hlast he =>
    hnew (List.mem_singleton.mp hlast ▸ he ▸ h.there q hq)⟩

/-- The first child is collected, and the others are still there. -/
theorem collects (h : k.Owns (pid :: pids)) (e : Ending) : (k.collects [(pid, e)]).Owns pids where
  there q hq := ⟨h.there q (List.mem_cons_of_mem _ hq), fun hgone =>
    (List.nodup_cons.mp h.nodup).1 ((List.mem_singleton.mp hgone : q = pid) ▸ hq)⟩
  pos q hq := h.pos q (List.mem_cons_of_mem _ hq)
  nodup := (List.nodup_cons.mp h.nodup).2

end Sight.Owns

/-! ### What the calls do -/

/-- The calls that have nothing to do with the children or with the table. -/
def Quiet : Call → Prop
  | .fork | .wait _ _ | .acquireJobs | .releaseJobs _ => False
  | _ => True

theorem ignores_of_quiet (c : Call) (h : Quiet c) : contract.Ignores c := by
  intro P k hP s r s' hs ha
  have hsame : s' = s := by
    cases c <;> first | exact h.elim | exact ha
  rw [hsame, hs]
  exact hP r

theorem pre_fork {P : Except Errno Forked → Sight → Prop}
    (hchild : ∀ pid, 0 < pid → pid ∉ k.there → P (.ok (.parent pid)) (k.forks [pid])) (herror : ∀ e, P (.error e) k) :
    contract.pre .fork P k := by
  rintro s (e | _ | pid) s' rfl ha
  · obtain rfl : s' = s := ha
    exact herror e
  · exact ha.elim
  · obtain ⟨hpos, hfree, rfl⟩ := ha
    rw [sight_bear]
    exact hchild pid hpos fun hthere => hthere hfree

/-- A wait for one child, which is there, lasts until the child has ended. -/
theorem pre_wait {P : Except Errno Report → Sight → Prop} (hown : k.Owns (pid :: pids))
    (hreport : ∀ e report, Ending.Reported e pid report → P (.ok report) (k.collects [(pid, e)]))
    (hinterrupted : P (.error .interrupted) k) : contract.pre (.wait pid true) P k := by
  -- The target is no wildcard, so that the wait can only answer for the child itself.
  have hpos : 0 < pid := hown.pos pid List.mem_cons_self
  have hself : ∀ {q}, Awaits pid q → q = pid := fun hq => (hq.resolve_left fun h => by subst h; cases hpos).symm
  rintro s (e | report) s' rfl ha
  · obtain ⟨rfl, rfl | ⟨rfl, hnone⟩⟩ := ha
    · exact hinterrupted
    · exact absurd (hnone pid (.inr rfl)) (hown.there pid List.mem_cons_self)
  · cases report with
    | alive => exact absurd ha.1 (by decide)
    | _ =>
      obtain ⟨q, e, hq, -, hr, rfl⟩ := ha
      obtain rfl := hself hq
      rw [sight_collect]
      exact hreport e _ hr

/-- A wait for any child finds one that has ended, or says that there is none. -/
theorem pre_wait_any {P : Except Errno Report → Sight → Prop}
    (hreport : ∀ pid e report, pid ∈ k.there → Ending.Reported e pid report → P (.ok report) (k.collects [(pid, e)]))
    (halive : P (.ok .alive) k) (hnone : P (.error .noChild) k) (hinterrupted : P (.error .interrupted) k) :
    contract.pre (.wait (-1) false) P k := by
  rintro s (e | report) s' rfl ha
  · obtain ⟨rfl, rfl | ⟨rfl, -⟩⟩ := ha
    · exact hinterrupted
    · exact hnone
  · cases report with
    | alive =>
      obtain ⟨-, -, -, rfl⟩ := ha
      exact halive
    | _ =>
      obtain ⟨q, e, -, hq, hr, rfl⟩ := ha
      rw [sight_collect]
      exact hreport q e _ (by simp [State.sight, hq]) hr

theorem pre_acquire {P : JobTable → Sight → Prop} (h : P k.jobs k) : contract.pre .acquireJobs P k := by
  rintro s table s' rfl ⟨rfl, rfl⟩
  exact h

theorem pre_release {P : Unit → Sight → Prop} {table : JobTable} (h : P () (k.stores table)) :
    contract.pre (.releaseJobs table) P k := by
  rintro s ⟨⟩ s' rfl rfl
  exact h

theorem ensures_remove (pid : Pid) : (Registry.remove pid).Ensures contract
    (fun found k' => found = (k.jobs.remove pid).1 ∧ k' = k.stores (k.jobs.remove pid).2) k :=
  Prog.ensures_perform (pre_acquire (Prog.ensures_perform (pre_release ⟨rfl, rfl⟩)))

/-! ### Waiting -/

/-- What the shell makes of the report about a child that has ended: without a name of the signal it learns neither the
child nor the end. -/
inductive Told (pid : Pid) (e : Ending) : Except Errno Change → Prop
  | named {status : Status} {change : Change} (he : e.status? = some status) (hp : change.pid? = some pid)
      (hs : change.status? = some status) : Told pid e (.ok change)
  | nameless (he : e.status? = none) : Told pid e (.error .invalid)

theorem told_of_reported {e : Ending} {report : Report} (h : e.Reported pid report) : Told pid e report.named := by
  cases report with
  | exited p code =>
    obtain ⟨rfl, rfl⟩ := h
    exact .named rfl rfl rfl
  | signaled p n core =>
    obtain ⟨rfl, signal, rfl, rfl⟩ := h
    rw [Report.named]
    cases hn : Signal.ofNumber? signal with
    | some name => exact .named (by rw [Ending.status?, hn]; rfl) rfl rfl
    | none => exact .nameless (by rw [Ending.status?, hn]; rfl)
  | _ => exact h.elim

theorem ensures_awaitChange (hown : k.Owns (pid :: pids)) : (awaitChange pid true).Ensures contract
    (fun r k' => (∃ e, Told pid e r ∧ k' = k.collects [(pid, e)]) ∨ r = .error .interrupted ∧ k' = k) k :=
  Prog.ensures_perform (pre_wait hown (fun e _ hr => .inl ⟨e, told_of_reported hr, rfl⟩) (.inr ⟨rfl, rfl⟩))

/-- What a wait for one child answers. -/
def Ending.waited (e : Ending) (pid : Pid) : Except Failure (Option Status) :=
  match e.status? with
  | some status => .ok (some status)
  | none => .error (.wait pid .invalid)

/-- A wait for a child collects it, also where it fails. -/
theorem ensures_waitFor (hown : k.Owns (pid :: pids)) : (waitFor pid).Ensures contract
    (fun r k' => ∃ e : Ending, r = e.waited pid ∧ k' = k.collects [(pid, e)]) k := by
  refine Prog.ensures_repeated (fun _ k' => k' = k) rfl ?_
  rintro _ _ rfl
  refine Prog.ensures_bind ((ensures_awaitChange hown).mono ?_)
  rintro r k' (⟨e, ⟨he, -, hs⟩ | he, rfl⟩ | ⟨rfl, rfl⟩)
  · simp only [hs]
    exact ⟨e, by rw [Ending.waited, he], rfl⟩
  · exact ⟨e, by rw [Ending.waited, he], rfl⟩
  · exact rfl

end JobShell.Children
