import JobShell.Proofs.Recycling.Family
import JobShell.Proofs.Recycling.Reaper

/-! # Who removes the job of a collected leader when pids are used again

A job whose leader was collected stays in the table only as long as one of the threads owes its removal. The reaper owes
a pid and not a child, so that it may find another job under the pid. -/

namespace JobShell.Recycling
open Threads (Thread Remover)

/-- What the interpreter knows is so; the children from `n` on are those of its line. -/
structure Knows (f : Family) (t : JobTable) (l : Ledger) (n : Nat) (k : Sight) : Prop where
  le : n ≤ f.pids.length
  forked : f.pids.drop n = k.forked
  seen : ∀ job ∈ k.seen, ∃ i, (job, i) ∈ l.launched
  leaders : k.added = false → ∀ job i, (job, i) ∈ l.launched → i < n
  gone : ∀ y ∈ k.waited, ∀ i : Nat, f.pids[i]? = some y.1 → f.Gone i
  told : ∀ pid x, (pid, some x) ∈ k.waited →
    ∃ i : Nat, f.pids[i]? = some pid ∧ (∀ j, i < j → f.pids[j]? ≠ some pid) ∧ f.fate? i = some (x, .interpreter)
  own : ∀ i x, n ≤ i → f.fate? i = some (x, .interpreter) → ∃ pid, f.pids[i]? = some pid ∧ (pid, some x) ∈ k.waited
  twice : ∀ (i j : Nat) (pid : Pid), n ≤ i → i < j → f.pids[i]? = some pid → f.pids[j]? = some pid →
    ∃ x, f.fate? i = some (x, .reaper)
  dropped : ∀ pid ∈ k.dropped, pid ∈ k.waited.map Prod.fst ∧ ∀ job ∈ t.jobs, job.pid ≠ pid

/-- A job that is led by a collected child is about to be removed. This also holds of the job that is about to be
added. -/
structure Owing (f : Family) (t : JobTable) (l : Ledger) (n : Nat) (k : Sight) (g : Reaping) : Prop where
  owed : ∀ pid, g.owed? = some pid → ∃ i x, f.pids[i]? = some pid ∧ f.fate? i = some (x, .reaper)
  table : ∀ job i, job ∈ t.jobs → (job, i) ∈ l.launched → f.Gone i →
    k.forked = [] ∧ job.pid ∈ k.waited.map Prod.fst ∨ g.owed? = some job.pid
  fresh : k.held.isSome → k.waited = [] → ∀ i, n ≤ i → f.Gone i → g.owed? = f.pids[i]?

variable {f f' : Family} {t t' : JobTable} {l l' : Ledger} {n i j : Nat} {k k' : Sight} {g g' : Reaping} {pid : Pid}
variable {x : Status}

namespace Knows

/-- A pid of the line is that of one of its children. -/
theorem mem_forked_iff (h : Knows f t l n k) : pid ∈ k.forked ↔ ∃ i, n ≤ i ∧ f.pids[i]? = some pid := by
  rw [← h.forked, List.mem_iff_getElem?]
  refine ⟨fun ⟨m, hm⟩ => ⟨n + m, Nat.le_add_right n m, ?_⟩, fun ⟨i, hi, hp⟩ => ⟨i - n, ?_⟩⟩
  · rwa [List.getElem?_drop] at hm
  · rwa [List.getElem?_drop, Nat.add_sub_cancel' hi]

theorem length (h : Knows f t l n k) : f.pids.length = n + k.forked.length := by
  have hle := h.le
  rw [← h.forked, List.length_drop]
  omega

/-- The last child of the line is the last child of all. -/
theorem last (h : Knows f t l n k) {leader : Pid} (hl : k.forked.getLast? = some leader) :
    ∃ m, n ≤ m ∧ m + 1 = f.pids.length ∧ f.pids[m]? = some leader := by
  have hlen := h.length
  rw [← h.forked, List.getLast?_eq_getElem?, List.getElem?_drop, h.forked] at hl
  have hne : k.forked.length ≠ 0 := fun h0 => by
    rw [h0, List.getElem?_eq_none (by omega)] at hl
    cases hl
  exact ⟨n + (k.forked.length - 1), by omega, by omega, hl⟩

theorem begun (hleads : ∀ job i, (job, i) ∈ l.launched → f.pids[i]? = some job.pid) (hn : Numbers f) :
    Knows f t l f.pids.length .begun where
  le := Nat.le_refl _
  forked := List.drop_length
  seen _ hj := absurd hj List.not_mem_nil
  leaders _ job i hj := (List.getElem?_eq_some_iff.mp (hleads job i hj)).1
  gone _ hy := absurd hy List.not_mem_nil
  told _ _ hy := absurd hy List.not_mem_nil
  own i _ hi hx := absurd (hn.bound i (Family.gone_of_fate? hx)) (Nat.not_lt.mpr hi)
  twice _ _ _ hi _ hp _ := absurd (List.getElem?_eq_some_iff.mp hp).1 (Nat.not_lt.mpr hi)
  dropped _ hp := absurd hp List.not_mem_nil

/-! ### The children go on -/

theorem forks (h : Knows f t l n k) (hw : k.waited = [])
    (hfree : ∀ i : Nat, f.pids[i]? = some pid → f.Gone i) : Knows (f.forks pid) t l n (k.forks [pid]) := by
  have none_waited : ∀ y, y ∉ k.waited := fun y hy => by
    rw [hw] at hy
    cases hy
  have before : ∀ (i : Nat) (q : Pid), i < f.pids.length → (f.forks pid).pids[i]? = some q → f.pids[i]? = some q :=
    fun i q hi hq => by rwa [Family.forks, List.getElem?_append_left hi] at hq
  refine { h with
    le := ?_
    forked := ?_
    gone := fun y hy => absurd hy (none_waited y)
    told := fun q x hy => absurd hy (none_waited _)
    own := fun i x hi hx => ?_
    twice := fun i j q hi hij hq hq' => ?_ }
  · exact Nat.le_trans h.le (by rw [Family.forks, List.length_append]; exact Nat.le_add_right _ _)
  · rw [Family.forks, List.drop_append_of_le_length h.le, h.forked]
    rfl
  · obtain ⟨q, -, hy⟩ := h.own i x hi hx
    exact absurd hy (none_waited _)
  · have hj : j < f.pids.length + 1 := by
      have hlt := (List.getElem?_eq_some_iff.mp hq').1
      rwa [Family.forks, List.length_append] at hlt
    have hq : f.pids[i]? = some q := before i q (by omega) hq
    by_cases hlt : j < f.pids.length
    · exact h.twice i j q hi hij hq (before j q hlt hq')
    · -- The new child has the pid of a child of the line, which the interpreter has not waited for.
      obtain rfl : j = f.pids.length := by omega
      rw [Family.forks, List.getElem?_concat_length] at hq'
      cases hq'
      obtain ⟨⟨x, θ⟩, hx⟩ := Option.ne_none_iff_exists'.mp (hfree i hq)
      cases θ with
      | reaper => exact ⟨x, hx⟩
      | interpreter =>
        obtain ⟨q, -, hy⟩ := h.own i x hi hx
        exact absurd hy (none_waited _)

/-- A child is collected by the reaper. -/
theorem reaped (h : Knows f t l n k) (hi : f.fate? i = none) : Knows (f.collects i x .reaper) t l n k := by
  have hg : f.Grows (f.collects i x .reaper) := Family.grows_collects hi
  refine { h with
    gone := fun y hy j hj => hg.gone (h.gone y hy j hj)
    told := fun q y hy => ?_
    own := fun j y hj hy => ?_
    twice := fun j j' q hj hjj hq hq' => ?_ }
  · obtain ⟨j, hj, hlast, hx⟩ := h.told q y hy
    exact ⟨j, hj, hlast, hg.fates j _ hx⟩
  · have hne : j ≠ i := by
      rintro rfl
      rw [Family.fate?_collects] at hy
      cases hy
    rw [Family.fate?_collects_of_ne hne] at hy
    exact h.own j y hj hy
  · obtain ⟨y, hy⟩ := h.twice j j' q hj hjj hq hq'
    exact ⟨y, hg.fates j _ hy⟩

/-- The interpreter hears that all of a pid were collected. -/
theorem misses (h : Knows f t l n k) (hgone : ∀ i : Nat, f.pids[i]? = some pid → f.Gone i) :
    Knows f t l n (k.hears [(pid, none)]) := by
  refine { h with gone := fun y hy => ?_, told := fun q x hy => ?_, own := fun i x hi hx => ?_, dropped := fun q hq => ?_ }
  · rcases List.mem_append.mp hy with hy | hy
    · exact h.gone y hy
    · cases List.mem_singleton.mp hy
      exact hgone
  · rcases List.mem_append.mp hy with hy | hy
    · exact h.told q x hy
    · cases List.mem_singleton.mp hy
  · obtain ⟨q, hq, hy⟩ := h.own i x hi hx
    exact ⟨q, hq, List.mem_append_left _ hy⟩
  · obtain ⟨hw, ht⟩ := h.dropped q hq
    rw [Sight.hears, List.map_append]
    exact ⟨List.mem_append_left _ hw, ht⟩

/-- The interpreter collects a child, which is the last one of its pid. -/
theorem collects (h : Knows f t l n k) (hn : Numbers f) (hp : f.pids[i]? = some pid) (hi : f.fate? i = none) :
    Knows (f.collects i x .interpreter) t l n (k.hears [(pid, some x)]) := by
  have hg : f.Grows (f.collects i x .interpreter) := Family.grows_collects hi
  refine { h with
    gone := fun y hy j hj => ?_
    told := fun q y hy => ?_
    own := fun j y hj hy => ?_
    twice := fun j j' q hj hjj hq hq' => ?_
    dropped := fun q hq => ?_ }
  · rcases List.mem_append.mp hy with hy | hy
    · exact hg.gone (h.gone y hy j hj)
    · cases List.mem_singleton.mp hy
      exact hn.gone_collects hp hi hj
  · rcases List.mem_append.mp hy with hy | hy
    · obtain ⟨j, hj, hlast, hx⟩ := h.told q y hy
      exact ⟨j, hj, hlast, hg.fates j _ hx⟩
    · cases List.mem_singleton.mp hy
      exact ⟨i, hp, hn.latest hp hi, Family.fate?_collects⟩
  · by_cases hji : j = i
    · subst hji
      rw [Family.fate?_collects] at hy
      cases hy
      exact ⟨pid, hp, List.mem_append_right _ (List.mem_singleton.mpr rfl)⟩
    · rw [Family.fate?_collects_of_ne hji] at hy
      obtain ⟨q, hq, hy⟩ := h.own j y hj hy
      exact ⟨q, hq, List.mem_append_left _ hy⟩
  · obtain ⟨y, hy⟩ := h.twice j j' q hj hjj hq hq'
    exact ⟨y, hg.fates j _ hy⟩
  · obtain ⟨hw, ht⟩ := h.dropped q hq
    rw [Sight.hears, List.map_append]
    exact ⟨List.mem_append_left _ hw, ht⟩

/-! ### The table -/

theorem takes (h : Knows f t l n k) (hb : Books f t l) : Knows f t l n (k.takes t) := by
  refine { h with seen := fun job hj => ?_ }
  rcases List.mem_append.mp hj with hj | hj
  · exact h.seen job hj
  · exact hb.listed job hj

theorem gives (h : Knows f t l n k) : Knows f t l n k.gives :=
  ⟨h.le, h.forked, h.seen, h.leaders, h.gone, h.told, h.own, h.twice, h.dropped⟩

/-- Somebody takes jobs out of the table. -/
theorem fewer (h : Knows f t l n k) (ht : ∀ job ∈ t'.jobs, job ∈ t.jobs) (hl : l'.launched = l.launched) :
    Knows f t' l' n k := by
  refine { h with seen := ?_, leaders := ?_, dropped := fun q hq => ?_ }
  · rw [hl]
    exact h.seen
  · rw [hl]
    exact h.leaders
  · obtain ⟨hw, hno⟩ := h.dropped q hq
    exact ⟨hw, fun job hj => hno job (ht job hj)⟩

theorem drops (h : Knows f t l n k) (hb : Books f t l) (hw : pid ∈ k.waited.map Prod.fst) (who : Remover) :
    Knows f (t.remove pid).2 (l.drops t pid who) n (k.drops pid) := by
  have hfewer : Knows f (t.remove pid).2 (l.drops t pid who) n k :=
    h.fewer (fun _ => JobTable.mem_of_mem_remove) rfl
  refine { hfewer.gives with dropped := fun q hq => ?_ }
  rcases List.mem_cons.mp hq with rfl | hq
  · exact ⟨hw, JobTable.absent_remove hb.pids⟩
  · exact hfewer.dropped q hq

theorem adds {group : Pid} {text : Text} (h : Knows f t l n k) (hw : k.waited = []) (who : Remover) :
    Knows f (t.add pid group text).2 ((l.drops t pid who).admits (t.add pid group text).1 i) n k.adds := by
  refine { h.gives with seen := fun job hj => ?_, leaders := nofun, dropped := fun q hq => ?_ }
  · obtain ⟨j, hj⟩ := h.seen job hj
    exact ⟨j, .inl hj⟩
  · obtain ⟨hwaited, -⟩ := h.dropped q hq
    rw [hw] at hwaited
    cases hwaited

end Knows

namespace Owing

theorem begun (h : Owing f t l n k g) (hk : Knows f t l n k) (hs : Settled k) :
    Owing f t l f.pids.length .begun g where
  owed := h.owed
  table job i hj hl hg := by
    rcases h.table job i hj hl hg with ⟨hf, hw⟩ | ho
    · obtain ⟨y, hy, hp⟩ := List.mem_map.mp hw
      exact absurd hp.symm ((hk.dropped _ (hs.waited hf y hy)).2 job hj)
    · exact .inr ho
  fresh := nofun

/-! ### The children go on -/

theorem forks (h : Owing f t l n k g) (hn : Numbers f) (hw : k.waited = []) :
    Owing (f.forks pid) t l n (k.forks [pid]) g := by
  have hg : f.Grows (f.forks pid) := f.grows_forks pid
  refine ⟨fun q hq => ?_, fun job i hj hl hi => ?_, fun hh _ i hi hgone => ?_⟩
  · obtain ⟨i, x, hi, hx⟩ := h.owed q hq
    exact ⟨i, x, hg.pids i q hi, hg.fates i _ hx⟩
  · rcases h.table job i hj hl hi with ⟨-, hwaited⟩ | ho
    · rw [hw] at hwaited
      cases hwaited
    · exact .inr ho
  · have hlt : i < f.pids.length := hn.bound i hgone
    rw [h.fresh hh hw i hi hgone, Family.forks, List.getElem?_append_left hlt]

/-- The reaper collects a child and owes its pid. -/
theorem reaped (h : Owing f t l n k .collecting) (hn : Numbers f) (hp : f.pids[i]? = some pid)
    (hleads : ∀ job i, (job, i) ∈ l.launched → f.pids[i]? = some job.pid) :
    Owing (f.collects i x .reaper) t l n k (.owing pid) := by
  refine ⟨fun q hq => ?_, fun job j hj hl hgone => ?_, fun hh hw j hj hgone => ?_⟩
  · cases hq
    exact ⟨i, x, hp, Family.fate?_collects⟩
  · rcases Family.gone_collects hgone with hgone | rfl
    · rcases h.table job j hj hl hgone with hwaited | ho
      · exact .inl hwaited
      · cases ho
    · rw [hleads job j hl] at hp
      cases hp
      exact .inr rfl
  · rcases Family.gone_collects hgone with hgone | rfl
    · -- Nothing was owed until now, so that no other child of the line was collected.
      have hnone := h.fresh hh hw j hj hgone
      rw [List.getElem?_eq_getElem (hn.bound j hgone)] at hnone
      cases hnone
    · exact hp.symm

/-- The interpreter waits for a child, and has to remove its job if it is no child of the line. -/
theorem waits {y : Pid × Option Status} (h : Owing f t l n k g) (hf : f.Grows f')
    (hnew : ∀ job j, job ∈ t.jobs → (job, j) ∈ l.launched → f'.Gone j → f.Gone j ∨ k.forked = [] ∧ job.pid = y.1) :
    Owing f' t l n (k.hears [y]) g := by
  refine ⟨fun q hq => ?_, fun job j hj hl hgone => ?_, fun _ hw => ?_⟩
  · obtain ⟨i, x, hi, hx⟩ := h.owed q hq
    exact ⟨i, x, hf.pids i q hi, hf.fates i _ hx⟩
  · rw [Sight.hears, List.map_append]
    rcases hnew job j hj hl hgone with hgone | ⟨hk, hp⟩
    · rcases h.table job j hj hl hgone with ⟨hk, hw⟩ | ho
      · exact .inl ⟨hk, List.mem_append_left _ hw⟩
      · exact .inr ho
    · exact .inl ⟨hk, List.mem_append_right _ (List.mem_singleton.mpr hp)⟩
  · exact absurd hw (List.append_ne_nil_of_right_ne_nil _ (List.cons_ne_nil y []))

/-! ### The table -/

theorem takes (h : Owing f t l n k g) (hk : Knows f t l n k) (hn : Numbers f) (hf : k.forked = []) :
    Owing f t l n (k.takes t) g := by
  refine ⟨h.owed, h.table, fun _ _ i hi hgone => ?_⟩
  have hlt := hn.bound i hgone
  rw [hk.length, hf, List.length_nil] at hlt
  omega

/-- The interpreter gives the table back with no more jobs than it had. -/
theorem fewer (h : Owing f t l n k g) (ht : ∀ job ∈ t'.jobs, job ∈ t.jobs) (hl : l'.launched = l.launched)
    (hk : k'.forked = k.forked ∧ k'.waited = k.waited) (hh : k'.held = none) : Owing f t' l' n k' g := by
  refine ⟨h.owed, fun job i hj hi hgone => ?_, fun hsome => ?_⟩
  · rw [hk.1, hk.2]
    rw [hl] at hi
    exact h.table job i (ht job hj) hi hgone
  · rw [hh] at hsome
    cases hsome

/-- A leader that was collected before its job is added is owed by the reaper. -/
theorem adds {group : Pid} {text : Text} (h : Owing f t l n k g) (hb : Books f t l) (hh : k.held.isSome)
    (hw : k.waited = []) (hi : f.pids[i]? = some pid) (hni : n ≤ i) (who : Remover) :
    Owing f (t.add pid group text).2 ((l.drops t pid who).admits (t.add pid group text).1 i) n k.adds g := by
  refine ⟨h.owed, fun job j hj hl hgone => ?_, nofun⟩
  rcases mem_admits_iff.mp hl with hl | ⟨rfl, rfl⟩
  · rcases List.mem_cons.mp hj with rfl | hj
    · exact absurd hl (hb.fresh _ rfl j)
    · exact h.table job j (JobTable.mem_of_mem_remove hj) hl hgone
  · exact .inr ((h.fresh hh hw j hni hgone).trans hi)

/-- The reaper removes the job of the pid that it owes, and then it owes nothing. -/
theorem reaperDrops (h : Owing f t l n k g) (hb : Books f t l) (hk : k.held = none) (ho : g.owed? = some pid)
    (who : Remover) : Owing f (t.remove pid).2 (l.drops t pid who) n k .collecting := by
  refine ⟨nofun, fun job i hj hl hgone => ?_, fun hsome => ?_⟩
  · rcases h.table job i (JobTable.mem_of_mem_remove hj) hl hgone with hw | howed
    · exact .inl hw
    · rw [ho] at howed
      cases howed
      exact absurd rfl (JobTable.absent_remove hb.pids job hj)
  · rw [hk] at hsome
    cases hsome

/-- Only the debt of the reaper counts. -/
theorem same (h : Owing f t l n k g) (ho : g'.owed? = g.owed?) : Owing f t l n k g' := by
  obtain ⟨howed, htable, hfresh⟩ := h
  rw [← ho] at howed htable hfresh
  exact ⟨howed, htable, hfresh⟩

end Owing

end JobShell.Recycling
