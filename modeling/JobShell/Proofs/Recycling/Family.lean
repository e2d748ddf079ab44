import JobShell.Proofs.Job.Table
import JobShell.Proofs.Recycling.System
import Mathlib.Logic.Function.Basic

/-! # The children and their jobs when pids are used again

Of the children it counts which pid each of them got and who has collected it. A pid is used again only when all who had
it were collected, so that at most the last one of them is still there. A job is led by one child for ever, and it is in
the table until somebody takes it out. -/

namespace JobShell.Recycling
open Threads (Thread Remover)

/-- The pids of the children, and how and by whom they were collected. -/
@[ext]
structure Family where
  pids : List Pid
  fate? : Nat → Option (Status × Thread)

def Child.fate? (c : Child) : Option (Status × Thread) :=
  match c.phase with
  | .collected x θ => some (x, θ)
  | _ => none

def Shared.family (s : Shared) : Family := ⟨s.children.map Child.pid, fun i => s.children[i]?.bind Child.fate?⟩

namespace Family

def Gone (f : Family) (i : Nat) : Prop := f.fate? i ≠ none

def forks (f : Family) (pid : Pid) : Family := { f with pids := f.pids ++ [pid] }

def collects (f : Family) (i : Nat) (x : Status) (θ : Thread) : Family :=
  { f with fate? := Function.update f.fate? i (some (x, θ)) }

/-- Children are forked and collected, and what has been stays. -/
structure Grows (f f' : Family) : Prop where
  pids : ∀ (i : Nat) (pid : Pid), f.pids[i]? = some pid → f'.pids[i]? = some pid
  fates : ∀ i y, f.fate? i = some y → f'.fate? i = some y

end Family

variable {s : Shared} {f f' : Family} {t : JobTable} {l : Ledger} {i j : Nat} {pid : Pid} {x : Status} {θ : Thread}
variable {c : Child} {who : Remover}

/-! ### Steps of the children -/

theorem Child.fate?_eq_some_iff : c.fate? = some (x, θ) ↔ c.phase = .collected x θ := by
  obtain ⟨pid, group, phase⟩ := c
  cases phase <;> simp [Child.fate?]

theorem Child.fate?_eq_none (h : ∀ x θ, c.phase ≠ .collected x θ) : c.fate? = none := by
  cases hf : c.fate? with
  | none => rfl
  | some y => exact absurd (Child.fate?_eq_some_iff.mp hf) (h y.1 y.2)

theorem family_fate?_eq_some_iff :
    s.family.fate? i = some (x, θ) ↔ ∃ c, s.children[i]? = some c ∧ c.phase = .collected x θ := by
  simp only [Shared.family, Option.bind_eq_some_iff, Child.fate?_eq_some_iff]

theorem family_pids_eq_some_iff : s.family.pids[i]? = some pid ↔ ∃ c, s.children[i]? = some c ∧ c.pid = pid := by
  simp only [Shared.family, List.getElem?_map, Option.map_eq_some_iff]

theorem family_length (s : Shared) : s.family.pids.length = s.children.length := by
  simp only [Shared.family, List.length_map]

theorem family_fate? (hc : s.children[i]? = some c) : s.family.fate? i = c.fate? := by
  simp only [Shared.family, hc, Option.bind_some]

theorem family_pids (hc : s.children[i]? = some c) : s.family.pids[i]? = some c.pid :=
  family_pids_eq_some_iff.mpr ⟨c, hc, rfl⟩

/-- The pid of a child does not change. -/
theorem pids_put {c' : Child} (hc : s.children[i]? = some c) (hp : c'.pid = c.pid) :
    (s.put i c').family.pids = s.family.pids := by
  refine List.ext_getElem? fun j => ?_
  simp only [Shared.family, Shared.put, List.getElem?_map, List.getElem?_set]
  by_cases hj : i = j
  · subst hj
    obtain ⟨hi, rfl⟩ := List.getElem?_eq_some_iff.mp hc
    simp [hi, hp]
  · simp [hj]

theorem fate?_put {c' : Child} (hc : s.children[i]? = some c) :
    (s.put i c').family.fate? = Function.update s.family.fate? i c'.fate? := by
  obtain ⟨hi, -⟩ := List.getElem?_eq_some_iff.mp hc
  funext j
  simp only [Shared.family, Shared.put, List.getElem?_set]
  by_cases hj : i = j
  · subst hj
    simp [hi]
  · rw [if_neg hj, Function.update_of_ne (Ne.symm hj)]

theorem family_put_open {c' : Child} (hc : s.children[i]? = some c) (hp : c'.pid = c.pid) (hf : c'.fate? = c.fate?) :
    (s.put i c').family = s.family := by
  have hfate : (s.put i c').family.fate? = Function.update s.family.fate? i c'.fate? := fate?_put hc
  rw [hf, ← family_fate? hc, Function.update_eq_self] at hfate
  exact Family.ext (pids_put hc hp) hfate

theorem family_put_collected (hc : s.children[i]? = some c) :
    (s.put i { c with phase := .collected x θ }).family = s.family.collects i x θ :=
   Family.ext (pids_put hc rfl) (fate?_put hc)

theorem family_bear {group : Pid} : (s.bear ⟨pid, group, .running⟩).family = s.family.forks pid := by
  have hfate : (s.bear ⟨pid, group, .running⟩).family.fate? = s.family.fate? := by
    funext j
    simp only [Shared.family, Shared.bear, List.getElem?_append]
    by_cases hj : j < s.children.length
    · simp [hj]
    · rw [if_neg hj, List.getElem?_eq_none (Nat.le_of_not_lt hj), Option.bind_none]
      cases hk : j - s.children.length with
      | zero => rfl
      | succ k => rfl
  exact Family.ext List.map_append hfate

theorem Family.fate?_collects : (f.collects i x θ).fate? i = some (x, θ) := Function.update_self ..

theorem Family.fate?_collects_of_ne (h : j ≠ i) : (f.collects i x θ).fate? j = f.fate? j := Function.update_of_ne h ..

theorem Family.grows_forks (f : Family) (pid : Pid) : f.Grows (f.forks pid) where
  pids i pid' h := by
    obtain ⟨hi, -⟩ := List.getElem?_eq_some_iff.mp h
    rw [forks, List.getElem?_append_left hi, h]
  fates _ _ h := h

theorem Family.grows_collects (h : f.fate? i = none) : f.Grows (f.collects i x θ) where
  pids _ _ h := h
  fates j y hj := by
    have hne : j ≠ i := by
      rintro rfl
      rw [h] at hj
      cases hj
    rw [fate?_collects_of_ne hne, hj]

theorem Family.Grows.gone (h : f.Grows f') (hi : f.Gone i) : f'.Gone i := by
  obtain ⟨y, hy⟩ := Option.ne_none_iff_exists'.mp hi
  rw [Family.Gone, h.fates i y hy]
  exact Option.some_ne_none y

theorem Family.gone_collects (h : (f.collects i x θ).Gone j) : f.Gone j ∨ j = i := by
  by_cases hj : j = i
  · exact .inr hj
  · rw [Gone, fate?_collects_of_ne hj] at h
    exact .inl h

theorem Family.gone_of_fate? (h : f.fate? i = some (x, θ)) : f.Gone i := by
  rw [Gone, h]
  exact Option.some_ne_none _

/-! ### Pids -/

/-- A pid is used again only when the one who had it was collected. -/
structure Numbers (f : Family) : Prop where
  positive : ∀ (i : Nat) (pid : Pid), f.pids[i]? = some pid → 0 < pid
  bound : ∀ i, f.Gone i → i < f.pids.length
  older : ∀ (i j : Nat) (pid : Pid), i < j → f.pids[i]? = some pid → f.pids[j]? = some pid → f.Gone i

namespace Numbers

theorem forks (h : Numbers f) (hpos : 0 < pid) (hfree : ∀ i, f.pids[i]? = some pid → f.Gone i) :
    Numbers (f.forks pid) := by
  have hlen : (f.forks pid).pids.length = f.pids.length + 1 := List.length_append
  -- Every other place is one of before.
  have cases_ : ∀ i q, (f.forks pid).pids[i]? = some q → f.pids[i]? = some q ∨ i = f.pids.length ∧ q = pid := by
    intro i q hi
    rcases Nat.lt_trichotomy i f.pids.length with hlt | heq | hgt
    · rw [Family.forks, List.getElem?_append_left hlt] at hi
      exact .inl hi
    · subst heq
      rw [Family.forks, List.getElem?_concat_length] at hi
      exact .inr ⟨rfl, (Option.some.inj hi).symm⟩
    · rw [List.getElem?_eq_none (by omega)] at hi
      cases hi
  refine ⟨fun i q hi => ?_, fun i hi => ?_, fun i j q hij hi hj => ?_⟩
  · rcases cases_ i q hi with hi | ⟨-, rfl⟩
    · exact h.positive i q hi
    · exact hpos
  · have hlt := h.bound i hi
    omega
  · have hj' : j < f.pids.length + 1 := hlen ▸ (List.getElem?_eq_some_iff.mp hj).1
    rcases cases_ i q hi with hi' | ⟨rfl, -⟩
    · rcases cases_ j q hj with hj | ⟨-, rfl⟩
      · exact h.older i j q hij hi' hj
      · exact hfree i hi'
    · omega

theorem collects (h : Numbers f) (hi : f.pids[i]? = some pid) (hn : f.fate? i = none) : Numbers (f.collects i x θ) := by
  refine ⟨h.positive, fun j hj => ?_, fun j k q hjk hj hk => (Family.grows_collects hn).gone (h.older j k q hjk hj hk)⟩
  rcases Family.gone_collects hj with hj | rfl
  · exact h.bound j hj
  · exact (List.getElem?_eq_some_iff.mp hi).1

/-- When the child that has the pid is collected, all who ever had it are. -/
theorem gone_collects (h : Numbers f) (hi : f.pids[i]? = some pid) (hn : f.fate? i = none) (hj : f.pids[j]? = some pid) :
    (f.collects i x θ).Gone j := by
  rcases Nat.lt_trichotomy j i with hlt | rfl | hgt
  · exact (Family.grows_collects hn).gone (h.older j i pid hlt hj hi)
  · exact Family.gone_of_fate? Family.fate?_collects
  · exact absurd hn (h.older i j pid hgt hi hj)

/-- A child that was not collected is the last one that got its pid. -/
theorem latest (h : Numbers f) (hi : f.pids[i]? = some pid) (hn : f.fate? i = none) :
    ∀ j, i < j → f.pids[j]? ≠ some pid :=
  fun j hij hj => h.older i j pid hij hi hj hn

end Numbers

/-! ### Jobs -/

/-- What entitles somebody to remove the job of a child: it was collected, or the reaper has collected another child
before that had the same pid. -/
def Family.Excuses (f : Family) (who : Remover) (i : Nat) : Prop :=
  f.Gone i ∨ who = .reaper ∧ ∃ pid j x, j < i ∧ f.pids[i]? = some pid ∧ f.pids[j]? = some pid ∧
    f.fate? j = some (x, .reaper)

structure Books (f : Family) (t : JobTable) (l : Ledger) : Prop where
  pids : (t.jobs.map Job.pid).Nodup
  le : ∀ job i, (job, i) ∈ l.launched → job.id ≤ t.lastId
  leads : ∀ job i, (job, i) ∈ l.launched → f.pids[i]? = some job.pid
  listed : ∀ job ∈ t.jobs, ∃ i, (job, i) ∈ l.launched
  kept : ∀ job i, (job, i) ∈ l.launched → job ∈ t.jobs ∨ ∃ who, (job, who) ∈ l.removed
  known : ∀ job who, (job, who) ∈ l.removed → ∃ i, (job, i) ∈ l.launched
  excused : ∀ job who i, (job, who) ∈ l.removed → (job, i) ∈ l.launched → f.Excuses who i

/-- The job of a pid is taken out of the table, if there is one. -/
def Ledger.drops (l : Ledger) (t : JobTable) (pid : Pid) (who : Remover) : Ledger :=
  { l with removed := l.removed ∪ {x | x.1 ∈ t.jobs ∧ x.1.pid = pid ∧ x.2 = who} }

def Ledger.admits (l : Ledger) (job : Job) (i : Nat) : Ledger := { l with launched := l.launched ∪ {(job, i)} }

theorem mem_admits_iff {job new : Job} :
    (job, j) ∈ (l.admits new i).launched ↔ (job, j) ∈ l.launched ∨ job = new ∧ j = i := by
  rw [Ledger.admits, Set.mem_union, Set.mem_singleton_iff, Prod.mk.injEq]

theorem mem_remove_iff {job : Job} (h : (t.jobs.map Job.pid).Nodup) :
    job ∈ (t.remove pid).2.jobs ↔ job ∈ t.jobs ∧ job.pid ≠ pid := by
  rw [JobTable.remove_jobs h, List.mem_filter, bne_iff_ne]

theorem note_same : l.note s who (.releaseJobs s.table) = l := by
  have hl : l.launched ∪ {x | x.1 ∈ s.table.jobs ∧ x.1 ∉ s.table.jobs ∧ s.Latest x.1.pid x.2} = l.launched :=
    Set.union_eq_self_of_subset_right fun _ hx => absurd hx.1 hx.2.1
  have hr : l.removed ∪ {x | x.1 ∈ s.table.jobs ∧ x.1 ∉ s.table.jobs ∧ x.2 = who} = l.removed :=
    Set.union_eq_self_of_subset_right fun _ hx => absurd hx.1 hx.2.1
  exact congr (congrArg Ledger.mk hl) hr

theorem note_remove (h : (s.table.jobs.map Job.pid).Nodup) :
    l.note s who (.releaseJobs (s.table.remove pid).2) = l.drops s.table pid who := by
  have hl : l.launched ∪ {x | x.1 ∈ (s.table.remove pid).2.jobs ∧ x.1 ∉ s.table.jobs ∧ s.Latest x.1.pid x.2} =
      l.launched := Set.union_eq_self_of_subset_right fun _ hx => absurd (JobTable.mem_of_mem_remove hx.1) hx.2.1
  have hr : {x : Job × Remover | x.1 ∈ s.table.jobs ∧ x.1 ∉ (s.table.remove pid).2.jobs ∧ x.2 = who} =
      {x | x.1 ∈ s.table.jobs ∧ x.1.pid = pid ∧ x.2 = who} := by
    ext x
    simp only [Set.mem_ofPred_eq, mem_remove_iff h]
    tauto
  exact congr (congrArg Ledger.mk hl) (congrArg (l.removed ∪ ·) hr)

theorem add_remove {group : Pid} {text : Text} (h : (t.jobs.map Job.pid).Nodup) :
    (t.remove pid).2.add pid group text = t.add pid group text := by
  rw [JobTable.add_of_absent (JobTable.absent_remove h)]
  rfl

namespace Books

theorem grows (h : Books f t l) (hf : f.Grows f') : Books f' t l := by
  refine { h with leads := ?_, excused := ?_ }
  · exact fun job i hj => hf.pids i _ (h.leads job i hj)
  · intro job who i hr hj
    rcases h.excused job who i hr hj with hi | ⟨hw, q, j, x, hji, hi, hj, hx⟩
    · exact .inl (hf.gone hi)
    · exact .inr ⟨hw, q, j, x, hji, hf.pids i q hi, hf.pids j q hj, hf.fates j _ hx⟩

theorem drops (h : Books f t l)
    (hw : ∀ job i, (job, i) ∈ l.launched → job.pid = pid → job ∈ t.jobs → f.Excuses who i) :
    Books f (t.remove pid).2 (l.drops t pid who) where
  pids := (List.eraseP_sublist.map Job.pid).nodup h.pids
  le := h.le
  leads := h.leads
  listed job hj := h.listed job (JobTable.mem_of_mem_remove hj)
  kept job i hj := by
    rcases h.kept job i hj with ht | ⟨who', hr⟩
    · by_cases hp : job.pid = pid
      · exact .inr ⟨who, .inr ⟨ht, hp, rfl⟩⟩
      · exact .inl ((mem_remove_iff h.pids).mpr ⟨ht, hp⟩)
    · exact .inr ⟨who', .inl hr⟩
  known job who' hr := by
    rcases hr with hr | ⟨ht, -, -⟩
    · exact h.known job who' hr
    · exact h.listed job ht
  excused job who' i hr hj := by
    rcases hr with hr | ⟨ht, hp, rfl⟩
    · exact h.excused job who' i hr hj
    · exact hw job i hj hp ht

/-- The number of a new job is larger than all that were given before. -/
theorem fresh (h : Books f t l) (job : Job) (hid : job.id = t.lastId + 1) : ∀ i, (job, i) ∉ l.launched := by
  intro i hj
  have hle := h.le job i hj
  omega

theorem admits {group : Pid} {text : Text} (h : Books f t l) (habsent : ∀ job ∈ t.jobs, job.pid ≠ pid)
    (hi : f.pids[i]? = some pid) : Books f (t.add pid group text).2 (l.admits (t.add pid group text).1 i) := by
  rw [JobTable.add_of_absent habsent]
  have hnew := h.fresh ⟨t.lastId + 1, pid, group, text⟩ rfl
  refine ⟨?_, fun job j hj => ?_, fun job j hj => ?_, fun job hj => ?_, fun job j hj => ?_, fun job who hr => ?_,
    fun job who j hr hj => ?_⟩
  · refine List.nodup_cons.mpr ⟨fun hmem => ?_, h.pids⟩
    obtain ⟨job, hj, hp⟩ := List.mem_map.mp hmem
    exact habsent job hj hp
  · rcases mem_admits_iff.mp hj with hj | ⟨rfl, rfl⟩
    · exact Nat.le_succ_of_le (h.le job j hj)
    · exact Nat.le_refl (t.lastId + 1)
  · rcases mem_admits_iff.mp hj with hj | ⟨rfl, rfl⟩
    · exact h.leads job j hj
    · exact hi
  · rcases List.mem_cons.mp hj with rfl | hj
    · exact ⟨i, mem_admits_iff.mpr (.inr ⟨rfl, rfl⟩)⟩
    · obtain ⟨j, hj⟩ := h.listed job hj
      exact ⟨j, mem_admits_iff.mpr (.inl hj)⟩
  · rcases mem_admits_iff.mp hj with hj | ⟨rfl, rfl⟩
    · exact (h.kept job j hj).imp_left (List.mem_cons_of_mem _)
    · exact .inl List.mem_cons_self
  · obtain ⟨j, hj⟩ := h.known job who hr
    exact ⟨j, mem_admits_iff.mpr (.inl hj)⟩
  · rcases mem_admits_iff.mp hj with hj | ⟨rfl, rfl⟩
    · exact h.excused job who j hr hj
    · obtain ⟨j, hj⟩ := h.known _ who hr
      exact absurd hj (hnew j)

end Books

/-- A job comes into the table for the last child of all, in the place of the job that was led by its pid. -/
theorem note_add {group : Pid} {text : Text} (h : Books s.family s.table l) (hi : s.family.pids[i]? = some pid)
    (hlast : i + 1 = s.family.pids.length) :
    l.note s who (.releaseJobs (s.table.add pid group text).2) =
      (l.drops s.table pid who).admits (s.table.add pid group text).1 i := by
  have hnew : ∀ job ∈ s.table.jobs, job ≠ (s.table.add pid group text).1 := by
    rintro job hj rfl
    obtain ⟨i, hi⟩ := h.listed _ hj
    exact h.fresh _ rfl i hi
  have hlatest : ∀ j, s.Latest pid j ↔ j = i := by
    refine fun j => ⟨fun ⟨hj, hno⟩ => ?_, ?_⟩
    · have hlt : j < s.family.pids.length := (List.getElem?_eq_some_iff.mp hj).1
      exact Nat.le_antisymm (by omega) (Nat.le_of_not_lt fun hji => hno i hji hi)
    · rintro rfl
      refine ⟨hi, fun k hk he => ?_⟩
      have hlt : k < s.family.pids.length := (List.getElem?_eq_some_iff.mp he).1
      omega
  have hmem : ∀ job, job ∈ (s.table.add pid group text).2.jobs ↔
      job = (s.table.add pid group text).1 ∨ job ∈ s.table.jobs ∧ job.pid ≠ pid := fun job => by
    rw [← mem_remove_iff h.pids]
    exact List.mem_cons
  have hl : {x : Job × Nat | x.1 ∈ (s.table.add pid group text).2.jobs ∧ x.1 ∉ s.table.jobs ∧ s.Latest x.1.pid x.2} =
      {((s.table.add pid group text).1, i)} := by
    ext ⟨job, j⟩
    refine ⟨fun ⟨hin, hout, hj⟩ => ?_, ?_⟩
    · rcases (hmem job).mp hin with rfl | ⟨hin, -⟩
      · rw [(hlatest j).mp hj]
        rfl
      · exact absurd hin hout
    · rintro ⟨⟩
      exact ⟨List.mem_cons_self, fun hin => hnew _ hin rfl, (hlatest i).mpr rfl⟩
  have hr : {x : Job × Remover | x.1 ∈ s.table.jobs ∧ x.1 ∉ (s.table.add pid group text).2.jobs ∧ x.2 = who} =
      {x | x.1 ∈ s.table.jobs ∧ x.1.pid = pid ∧ x.2 = who} := by
    ext ⟨job, who'⟩
    simp only [Set.mem_ofPred_eq, hmem]
    refine ⟨fun ⟨hin, hout, hw⟩ => ⟨hin, ?_, hw⟩, fun ⟨hin, hp, hw⟩ => ⟨hin, ?_, hw⟩⟩
    · exact not_not.mp fun hp => hout (.inr ⟨hin, hp⟩)
    · rintro (rfl | ⟨-, hp'⟩)
      · exact hnew _ hin rfl
      · exact hp' hp
  exact congr (congrArg Ledger.mk (congrArg (l.launched ∪ ·) hl)) (congrArg (l.removed ∪ ·) hr)

end JobShell.Recycling
