import JobShell.Proofs.Recycling.Run

/-! # Whom a failed launch kills

If a stage cannot be started, the launch kills its other stages one by one and waits for each of them. The interpreter
kills no stage that it has waited for, but it does not know what the reaper has collected. A pid of its launch may
therefore belong to somebody else by the time it is killed. -/

namespace JobShell.Recycling
open Threads (Thread)

variable {shell : Shell} {home : Pid} {others : Set Pid} {s s' : System} {limits : Limits} {n i : Nat} {k : Sight}
variable {g : Reaping} {f : Family} {pid : Pid} {x : Status}

/-! ### What the interpreter asks for -/

/-- The processes that a line has forked, and those that it has waited for, in this order. -/
structure Marks where
  forked : List Pid
  waited : List Pid

namespace Cleanup

/-- The interpreter kills processes that it has forked, in their order, and waits for each before it kills the next. -/
def contract : Contract Marks where
  pre
    | .fork, P, m => (∀ pid, P (.ok (.parent pid)) { m with forked := m.forked ++ [pid] }) ∧ ∀ e, P (.error e) m
    | .wait target _, P, m => ∀ r, P r { m with waited := m.waited ++ [target] }
    | .kill pid n, P, m => n = Signal.kill.number ∧
        (∃ before after, m.forked = before ++ pid :: after ∧ ∀ q ∈ m.waited, q ∈ before) ∧ ∀ r, P r m
    | _, P, m => ∀ r, P r m
  mono := by
    intro c P Q m hPQ h
    cases c with
    | fork => exact ⟨fun pid => hPQ _ _ (h.1 pid), fun e => hPQ _ _ (h.2 e)⟩
    | kill pid n => exact ⟨h.1, h.2.1, fun r => hPQ _ _ (h.2.2 r)⟩
    | _ => exact fun r => hPQ _ _ (h r)

variable {m : Marks}

theorem ensures_waitFor (pid : Pid) (m : Marks) : (waitFor pid).Ensures contract
    (fun _ m' => m'.forked = m.forked ∧ ∀ q ∈ m'.waited, q ∈ m.waited ∨ q = pid) m := by
  refine ensures_waitFor_of (fun m' => m'.forked = m.forked ∧ ∀ q ∈ m'.waited, q ∈ m.waited ∨ q = pid)
    ⟨rfl, fun q hq => .inl hq⟩ ?_
  rintro m' ⟨hforked, hwaited⟩ r
  have hnext : ∀ q ∈ m'.waited ++ [pid], q ∈ m.waited ∨ q = pid := fun q hq =>
    (List.mem_append.mp hq).elim (hwaited q) fun h => .inr (List.mem_singleton.mp h)
  cases waited? pid r <;> exact ⟨hforked, hnext⟩

theorem ensures_abandon {before pids : List Pid} (hf : m.forked = before ++ pids) (hw : ∀ q ∈ m.waited, q ∈ before) :
    (Launch.abandon pids).Ensures contract (fun _ _ => True) m := by
  induction pids generalizing before m with
  | nil => exact Prog.ensures_pure trivial
  | cons pid pids ih =>
    refine Prog.ensures_perform ⟨rfl, ⟨before, pids, hf, hw⟩, fun _ => Prog.ensures_bind ?_⟩
    refine (ensures_waitFor pid m).mono ?_
    rintro _ m' ⟨hf', hw'⟩
    have hnext : m'.forked = (before ++ [pid]) ++ pids := by rw [hf', hf, List.append_assoc, List.singleton_append]
    refine ih hnext fun q hq => ?_
    exact List.mem_append.mpr ((hw' q hq).imp (hw q) fun h => List.mem_singleton.mpr h)

theorem ensures_spawn (grouped : Bool) (stages : List Invocation) :
    (Launch.spawn grouped stages).Ensures contract (fun _ _ => True) ⟨[], []⟩ := by
  refine Prog.ensures_bind ((Launch.ensures_spawnStages_of_invariant (fun pids _ m => m = ⟨pids, []⟩) (fun h => h)
    (fun _ _ _ h => h) (fun {pids w m} i hm => ?_) rfl).mono ?_)
  · subst hm
    exact Launch.ensures_start_of (fun _ _ _ _ h => h) ⟨fun _ => rfl, fun _ => rfl⟩
  · rintro ⟨pids, f⟩ _ ⟨⟨-, rfl⟩, -⟩
    cases f with
    | none => exact Prog.ensures_pure trivial
    | some f =>
      have hnone : ∀ q ∈ ([] : List Pid), q ∈ ([] : List Pid) := fun _ hq => hq
      exact Prog.ensures_bind ((ensures_abandon rfl hnone).mono fun _ _ _ => Prog.ensures_pure trivial)

theorem ensures_launch (p : Pipeline) : (launch p).Ensures contract (fun _ _ => True) ⟨[], []⟩ := by
  refine Launch.ensures_launch_of (fun _ => trivial) (fun _ _ => trivial) fun stages _ _ _ => ?_
  split
  · refine Prog.ensures_perform fun table => Prog.ensures_bind ((ensures_spawn true stages).mono ?_)
    rintro (f | _ | ⟨first, rest⟩) m -
    · exact Prog.ensures_perform fun _ => Prog.ensures_pure trivial
    · exact Prog.ensures_perform fun _ => Prog.ensures_pure trivial
    · exact Prog.ensures_perform fun _ => Prog.ensures_pure trivial
  · refine Prog.ensures_bind ((ensures_spawn false stages).mono ?_)
    rintro (f | pids) m -
    · exact Prog.ensures_pure trivial
    · refine Prog.ensures_bind ((ensures_waitAll_of_each (fun _ => True) trivial
        fun pid _ m _ => (ensures_waitFor pid m).mono fun _ _ _ => trivial).mono ?_)
      rintro (f | statuses) m -
      · exact Prog.ensures_pure trivial
      · exact Prog.ensures_pure trivial

theorem ensures_findJob (b : Builtin) (args : List Text) (m : Marks) :
    (b.findJob args).run.Ensures contract (fun _ _ => True) m := by
  refine Builtin.ensures_findJob_of (fun _ _ => trivial) fun id _ => ensures_look_of fun _ _ => ?_
  split <;> trivial

theorem ensures_builtin (b : Builtin) (args : List Text) (m : Marks) :
    (b.run args).run.Ensures contract (fun _ _ => True) m := by
  cases b with
  | exit => exact Prog.ensures_pure trivial
  | cd =>
    refine Builtin.ensures_proceed_of (Builtin.ensures_changeDirectory_of (fun _ _ => trivial) fun _ _ r => ?_)
    cases r <;> trivial
  | jobs =>
    refine Builtin.ensures_proceed_of (Prog.ensures_lift_bind (ensures_look_of fun _ _ => ?_))
    exact (Builtin.ensures_forM_printLine_ignored (fun _ _ _ h => h) _).mono fun _ _ _ => trivial
  | fg =>
    have terminal : contract.IgnoresTerminal := ⟨fun _ _ _ h => h, fun _ _ _ _ h => h, fun _ _ _ _ h => h, fun h => h⟩
    refine Builtin.ensures_proceed_of (Builtin.ensures_foreground_of (B := fun _ _ => True) (fun _ _ _ h => h) terminal
      (fun _ _ _ _ h => h) ((ensures_findJob .fg args m).mono fun r _ _ => by cases r <;> trivial)
      (fun _ _ _ _ => trivial) fun job m _ => ?_)
    exact (ensures_waitFor job.pid m).mono fun _ _ _ => ensures_remove_of fun _ _ => trivial
  | bg =>
    refine Builtin.ensures_proceed_of (Prog.ensures_run_bind ((ensures_findJob .bg args m).mono ?_))
    rintro (f | job) m -
    · trivial
    · exact (Builtin.ensures_resume_ignored (fun _ _ _ _ h => h) .bg job.group).mono fun _ _ _ => trivial

theorem ensures_eval (shell : Shell) (line : Text) : (shell.eval line).Ensures contract (fun _ _ => True) ⟨[], []⟩ := by
  refine Shell.ensures_eval_of (Shell.ensures_obey_of (fun _ _ => trivial) (fun _ _ _ => trivial)
    (fun p b args _ _ => ensures_builtin b args _) fun p _ _ _ => ?_)
  refine Prog.ensures_run_bind ((ensures_launch p).mono ?_)
  rintro (f | statuses | job) m -
  · trivial
  · exact Prog.ensures_pure trivial
  · refine Prog.ensures_run_bind ((Builtin.ensures_printLine_ignored (fun _ _ _ h => h) _).mono ?_)
    rintro (f | _) m -
    · trivial
    · exact Prog.ensures_pure trivial

end Cleanup

/-! ### What is so of the children -/

/-- What the interpreter remembers of its line is so; the children from `n` on are those of the line. -/
structure Marked (f : Family) (n : Nat) (m : Marks) : Prop where
  le : n ≤ f.pids.length
  forked : f.pids.drop n = m.forked
  own : ∀ i x, n ≤ i → f.fate? i = some (x, .interpreter) → ∃ pid ∈ m.waited, f.pids[i]? = some pid

namespace Marked
variable {m : Marks}

theorem begun (h : Numbers f) : Marked f f.pids.length ⟨[], []⟩ where
  le := Nat.le_refl _
  forked := List.drop_length
  own i _ hi hx := absurd (h.bound i (Family.gone_of_fate? hx)) (Nat.not_lt.mpr hi)

theorem forks (h : Marked f n m) : Marked (f.forks pid) n { m with forked := m.forked ++ [pid] } where
  le := h.le.trans (by simp [Family.forks])
  forked := by rw [Family.forks, List.drop_append_of_le_length h.le, h.forked]
  own i x hi hx := by
    obtain ⟨q, hq, hpid⟩ := h.own i x hi hx
    exact ⟨q, hq, (f.grows_forks pid).pids i q hpid⟩

theorem reaped (h : Marked f n m) : Marked (f.collects i x .reaper) n m where
  le := h.le
  forked := h.forked
  own j y hj hy := by
    by_cases hij : j = i
    · subst hij
      rw [Family.fate?_collects] at hy
      cases hy
    · rw [Family.fate?_collects_of_ne hij] at hy
      exact h.own j y hj hy

theorem waits (h : Marked f n m) (pid : Pid) : Marked f n { m with waited := m.waited ++ [pid] } where
  le := h.le
  forked := h.forked
  own j y hj hy := by
    obtain ⟨q, hq, hpid⟩ := h.own j y hj hy
    exact ⟨q, List.mem_append_left _ hq, hpid⟩

theorem collects (h : Marked f n m) (hpid : f.pids[i]? = some pid) :
    Marked (f.collects i x .interpreter) n { m with waited := m.waited ++ [pid] } where
  le := h.le
  forked := h.forked
  own j y hj hy := by
    by_cases hij : j = i
    · subst hij
      exact ⟨pid, List.mem_append_right _ (List.mem_singleton_self _), hpid⟩
    · rw [Family.fate?_collects_of_ne hij] at hy
      exact (h.waits pid).own j y hj hy

/-- A process that is killed has the pid of a child of the line, and the interpreter has not collected this child. -/
theorem exists_kept {t : JobTable} {l : Ledger} (h : Marked f n m) (hk : Knows f t l n k) {before after : List Pid}
    (hforked : m.forked = before ++ pid :: after) (hwaited : ∀ q ∈ m.waited, q ∈ before) :
    ∃ i, n ≤ i ∧ f.pids[i]? = some pid ∧ ∀ x, f.fate? i ≠ some (x, .interpreter) := by
  have place : ∀ j, f.pids[n + j]? = (before ++ pid :: after)[j]? := fun j => by
    rw [← hforked, ← h.forked, List.getElem?_drop]
  have hpid : f.pids[n + before.length]? = some pid := by
    rw [place, List.getElem?_append_right (Nat.le_refl _), Nat.sub_self, List.getElem?_cons_zero]
  by_cases hkept : ∀ x, f.fate? (n + before.length) ≠ some (x, .interpreter)
  · exact ⟨_, Nat.le_add_right n _, hpid, hkept⟩
  -- The wait for an earlier child with the same pid has collected this one, as the reaper had collected that one.
  obtain ⟨x, hx⟩ := not_forall_not.mp hkept
  obtain ⟨q, hq, hpid'⟩ := h.own _ x (Nat.le_add_right n _) hx
  obtain rfl : pid = q := Option.some.inj (hpid.symm.trans hpid')
  obtain ⟨j, hj⟩ := List.mem_iff_getElem?.mp (hwaited pid hq)
  have hlt : j < before.length := (List.getElem?_eq_some_iff.mp hj).1
  have hearlier : f.pids[n + j]? = some pid := by rw [place, List.getElem?_append_left hlt, hj]
  obtain ⟨y, hy⟩ := hk.twice (n + j) (n + before.length) pid (Nat.le_add_right n j) (by omega) hearlier hpid
  refine ⟨n + j, Nat.le_add_right n j, hearlier, fun z hz => ?_⟩
  rw [hy] at hz
  cases hz

variable {s s' : Shared} {c : Call} {r : c.Reply}

/-- What the interpreter does under its contract. -/
theorem evaluates {P : c.Reply → Marks → Prop} (h : Marked s.family n m)
    (hpos : ∀ target block, c = .wait target block → 0 < target) (hP : Cleanup.contract.pre c P m)
    (ha : Answer .interpreter c s r s') : ∃ m', P r m' ∧ Marked s'.family n m' := by
  cases c with
  | fork =>
    cases r with
    | error e =>
      obtain rfl : s' = s := ha
      exact ⟨m, hP.2 e, h⟩
    | ok forked =>
      cases forked with
      | child => exact ha.elim
      | parent pid =>
        obtain ⟨-, rfl⟩ := ha
        rw [family_bear]
        exact ⟨_, hP.1 pid, h.forks⟩
  | wait target block =>
    refine ⟨_, hP r, ?_⟩
    cases ha with
    | @collects i c x report hc hx ht hr =>
      have hwait := hpos target block rfl
      obtain rfl : target = c.pid := ht.resolve_left fun he => by subst he; cases hwait
      rw [family_put_collected hc]
      exact h.collects (family_pids hc)
    | _ => exact h.waits target
  | kill pid n =>
    obtain rfl : s' = s := ha
    exact ⟨m, hP.2.2 r, h⟩
  | setGroup pid group =>
    refine ⟨m, hP r, ?_⟩
    cases r with
    | error e =>
      obtain rfl : s' = s := ha
      exact h
    | ok _ =>
      obtain ⟨i, c, hc, rfl, -, rfl⟩ := ha
      have hfamily : (s.put i { c with group := if group = 0 then c.pid else group }).family = s.family :=
        family_put_open hc rfl rfl
      rwa [hfamily]
  | acquireJobs =>
    obtain ⟨-, -, rfl⟩ := ha
    exact ⟨m, hP r, h⟩
  | releaseJobs t =>
    obtain ⟨-, rfl⟩ := ha
    exact ⟨m, hP r, h⟩
  | awaitNotice =>
    refine ⟨m, hP r, ?_⟩
    cases r with
    | childChanged =>
      obtain ⟨-, rfl⟩ := ha
      exact h
    | interrupt =>
      obtain rfl : s' = s := ha
      exact h
    | closed => exact ha.elim
  | _ =>
    obtain rfl : s' = s := ha
    exact ⟨m, hP r, h⟩

/-- The reaper forks nobody, and what it collects is not collected by the interpreter. -/
theorem reaps {P : c.Reply → Reaping → Prop} (h : Marked s.family n m) (hP : reaper.pre c P g)
    (ha : Answer .reaper c s r s') : Marked s'.family n m := by
  cases c with
  | wait target block =>
    cases ha with
    | collects hc hx ht hr =>
      rw [family_put_collected hc]
      exact h.reaped
    | _ => exact h
  | acquireJobs =>
    obtain ⟨-, -, rfl⟩ := ha
    exact h
  | releaseJobs t =>
    obtain ⟨-, rfl⟩ := ha
    exact h
  | awaitNotice =>
    cases r with
    | childChanged =>
      obtain ⟨-, rfl⟩ := ha
      exact h
    | interrupt =>
      obtain rfl : s' = s := ha
      exact h
    | closed => exact ha.elim
  | write d bytes =>
    obtain rfl : s' = s := ha
    exact h
  | _ => exact hP.elim

end Marked

/-! ### Runs -/

/-- The interpreter keeps to its contract, and what it remembers is so. -/
def Tracked (s : System) : Prop :=
  ∀ e p, s.interpreter = some (e, p) → ∃ m, p.Ensures Cleanup.contract (fun _ _ => True) m ∧ Marked s.family e.first m

theorem Tracked.outside (h : Tracked s) {s'' : Shared} (hf : s''.family = s.family) :
    Tracked { s with toShared := s'' } := by
  intro e p hi
  obtain ⟨m, hp, hm⟩ := h e p hi
  exact ⟨m, hp, hf.symm ▸ hm⟩

theorem tracked_step (hs : Sound limits s n k g) (ht : Tracked s) (h : System.Step s s') : Tracked s' := by
  cases h with
  | ends x hc hp =>
    refine ht.outside (family_put_open hc rfl ?_)
    rw [Child.fate?, Child.fate?, hp]
  | stirs => exact ht
  | delivers => exact ht
  | moves pid group hm =>
    obtain ⟨i, c, hc, -, -, rfl⟩ := hm
    exact ht.outside (family_put_open hc rfl rfl)
  | elsewhere others => exact ht
  | enter line hi =>
    rintro _ _ ⟨⟩
    refine ⟨_, Cleanup.ensures_eval s.shell line, ?_⟩
    rw [← family_length]
    exact .begun hs.sane.numbers
  | @evaluate e c next r h hi ha =>
    rintro _ _ ⟨⟩
    obtain ⟨m, hp, hm⟩ := ht _ _ hi
    have hwork := hs.evaluating
    rw [hi] at hwork
    refine hm.evaluates ?_ hp ha
    rintro target block rfl
    exact hs.sane.awaitable_pos hwork.2.1
  | repeatLine hi =>
    rintro _ _ ⟨⟩
    obtain ⟨m, hp, hm⟩ := ht _ _ hi
    exact ⟨m, hp.unroll, hm⟩
  | finish hi => exact fun _ _ he => by cases he
  | reap hr ha =>
    have hp := hs.reaping
    rw [hr] at hp
    intro e p hi
    obtain ⟨m, hline, hm⟩ := ht e p hi
    exact ⟨m, hline, hm.reaps hp ha⟩
  | repeatReap hr => exact ht

theorem tracked_reaches (h : System.Reaches (.start shell home others) s) : Tracked s := by
  induction h with
  | refl => exact fun _ _ he => by cases he
  | tail hreach hstep ih =>
    obtain ⟨n, k, g, hs⟩ := sound_reaches hreach
    exact tracked_step hs ih hstep

/-- Whatever the order of the steps and whichever pids the kernel gives: when the interpreter is about to kill a
process, then with the signal that cannot be caught, and the pid is that of a child of the line that it evaluates.
This child was not collected, unless the reaper has collected it. -/
theorem kill_own_or_reaped (h : System.Reaches (.start shell home others) s) {e : Evaluation} {pid : Pid} {number : Nat}
    {next : (Call.kill pid number).Reply → Prog (Except Failure Flow × Shell)}
    (hi : s.interpreter = some (e, .call (.kill pid number) next)) : number = Signal.kill.number ∧
    ∃ i c, e.first ≤ i ∧ s.children[i]? = some c ∧ c.pid = pid ∧ ∀ x, c.phase ≠ .collected x .interpreter := by
  obtain ⟨n, k, g, hs⟩ := sound_reaches h
  obtain ⟨m, ⟨hnumber, ⟨before, after, hforked, hwaited⟩, -⟩, hm⟩ := tracked_reaches h _ _ hi
  have hwork := hs.evaluating
  rw [hi] at hwork
  obtain ⟨i, hle, hpid, hkept⟩ := hm.exists_kept (hwork.1.symm ▸ hs.sane.knows) hforked hwaited
  obtain ⟨c, hc, hcpid⟩ := family_pids_eq_some_iff.mp hpid
  refine ⟨hnumber, i, c, hle, hc, hcpid, fun x hx => hkept x ?_⟩
  exact family_fate?_eq_some_iff.mpr ⟨c, hc, hx⟩

/-! ### A stage that the reaper collects before the next one cannot be forked -/

def pipedShell : Shell := { limits := {} }

def pipedLine : Text := ['a', '|', 'b']

/-- The reaper collects the first stage, and another process gets its pid. Then there is no process for the second
stage, and the first one is to be killed. -/
theorem reaches_strangerKilled : ∃ s next, System.Reaches (.start pipedShell 7 ∅) s ∧
    s.interpreter = some (⟨pipedLine, 0⟩, .call (.kill 71 Signal.kill.number) next) ∧
    s.children = [⟨71, 7, .collected (.exited 0) .reaper⟩] ∧ 71 ∈ s.others := by
  have h : System.Reaches (.start pipedShell 7 ∅) (.start pipedShell 7 ∅) := .refl
  replace h := h.tail (.enter pipedLine rfl)
  replace h := h.tail (step_line .pipe (.ok (3, 4) : Except Errno (Descriptor × Descriptor)) rfl)
  replace h := h.tail (step_line .fork (.ok (.parent 71) : Except Errno Forked)
    ⟨⟨by decide, by decide, id, fun _ hc => absurd hc List.not_mem_nil⟩, rfl⟩)
  replace h := h.tail (step_line (.close 4) (.ok () : Except Errno Unit) rfl)
  replace h := h.tail (@System.Step.ends _ 0 _ (.exited 0) rfl rfl)
  replace h := h.tail (.delivers rfl)
  replace h := h.tail (.repeatReap rfl)
  replace h := h.tail (step_reap .awaitNotice .childChanged ⟨rfl, rfl⟩)
  replace h := h.tail (.repeatReap rfl)
  replace h := h.tail (step_reap (.wait (-1) false) (.ok (.exited 71 0) : Except Errno Report)
    (@Waited.collects _ _ _ _ 0 _ (.exited 0) _ rfl rfl (.inl rfl) ⟨rfl, rfl⟩))
  replace h := h.tail (.elsewhere {71})
  replace h := h.tail (step_line .fork (.error .tryAgain : Except Errno Forked) rfl)
  replace h := h.tail (step_line (.close 3) (.ok () : Except Errno Unit) rfl)
  exact ⟨_, _, h, rfl, rfl, rfl⟩

theorem kill_own_or_reaped_stranger : ∃ s e next, System.Reaches (.start pipedShell 7 ∅) s ∧
    s.interpreter = some (e, .call (.kill 71 Signal.kill.number) next) ∧
    ∃ c x, s.children[e.first]? = some c ∧ c.pid = 71 ∧ c.phase = .collected x .reaper := by
  obtain ⟨s, next, h, hi, hc, -⟩ := reaches_strangerKilled
  obtain ⟨-, i, c, -, hi', hpid, -⟩ := kill_own_or_reaped h hi
  have hlt : i < 1 := by
    have hlt := (List.getElem?_eq_some_iff.mp hi').1
    rwa [hc] at hlt
  obtain rfl : i = 0 := Nat.lt_one_iff.mp hlt
  rw [hc] at hi'
  cases hi'
  exact ⟨s, _, next, h, hi, _, _, by rw [hc]; rfl, hpid, rfl⟩

/-- A process is about to be killed that is no child of the shell. -/
theorem stranger_killed : ∃ s e next, System.Reaches (.start pipedShell 7 ∅) s ∧
    s.interpreter = some (e, .call (.kill 71 Signal.kill.number) next) ∧ 71 ∈ s.others ∧
    ∀ c ∈ s.children, c.pid = 71 → ∃ x θ, c.phase = .collected x θ := by
  obtain ⟨s, next, h, hi, hc, hothers⟩ := reaches_strangerKilled
  refine ⟨s, _, next, h, hi, hothers, fun c hmem _ => ?_⟩
  rw [hc] at hmem
  rw [List.mem_singleton.mp hmem]
  exact ⟨_, _, rfl⟩

end JobShell.Recycling
