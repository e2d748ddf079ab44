import JobShell.Job.Table
import Mathlib.Data.List.Basic
import Mathlib.Data.List.Nodup
import Mathlib.Data.List.Perm.Basic

/-! # Removing and adding jobs

Removing takes out the job led by a process and no other, and adding puts in a job if no other has its leader. -/

namespace JobShell.JobTable
variable {t : JobTable} {pid group : Int} {text : Text} {job : Job}

theorem perm_find?_eraseP {α : Type} (p : α → Bool) (l : List α) : l.Perm ((l.find? p).toList ++ l.eraseP p) := by
  induction l with
  | nil => exact .nil
  | cons a l ih =>
    cases hp : p a with
    | true => rw [List.find?_cons_of_pos hp, List.eraseP_cons_of_pos hp]; exact .refl _
    | false =>
      rw [List.find?_cons_of_neg (by simp [hp]), List.eraseP_cons_of_neg (by simp [hp])]
      exact (ih.cons a).trans (List.perm_middle.symm)

/-- A search by a key that is not used twice finds whoever has the key. -/
theorem find?_key_eq_some_iff {α κ : Type} [DecidableEq κ] {key : α → κ} {l : List α} {k : κ} {a : α}
    (h : (l.map key).Nodup) : (l.find? fun x => key x == k) = some a ↔ a ∈ l ∧ key a = k := by
  refine ⟨fun hf => ⟨List.mem_of_find?_eq_some hf, by simpa using List.find?_some hf⟩, fun ⟨ha, hk⟩ => ?_⟩
  cases hf : l.find? fun x => key x == k with
  | none => exact absurd (List.find?_eq_none.mp hf a ha) (by simpa using hk)
  | some b =>
    have hb : key b = k := by simpa using List.find?_some hf
    rw [List.inj_on_of_nodup_map h (List.mem_of_find?_eq_some hf) ha (hb.trans hk.symm)]

/-- What is removed and what is left is what there was. -/
theorem remove_perm (t : JobTable) (pid : Int) : t.jobs.Perm ((t.remove pid).1.toList ++ (t.remove pid).2.jobs) :=
  perm_find?_eraseP _ t.jobs

theorem mem_of_remove_eq_some (h : (t.remove pid).1 = some job) : job ∈ t.jobs ∧ job.pid = pid :=
  ⟨List.mem_of_find?_eq_some h, by simpa using List.find?_some h⟩

theorem mem_of_mem_remove (h : job ∈ (t.remove pid).2.jobs) : job ∈ t.jobs :=
  List.mem_of_mem_eraseP h

theorem remove_of_absent (h : ∀ job ∈ t.jobs, job.pid ≠ pid) : t.remove pid = (none, t) := by
  have hp : ∀ job ∈ t.jobs, ¬ (job.pid == pid) = true := fun job hj => by simpa using h job hj
  rw [remove, lead?, List.find?_eq_none.mpr hp, List.eraseP_of_forall_not hp]

/-- No job is led by a process whose job has been removed. -/
theorem absent_remove (h : (t.jobs.map Job.pid).Nodup) : ∀ job ∈ (t.remove pid).2.jobs, job.pid ≠ pid := by
  cases hr : (t.remove pid).1 with
  | none =>
    intro job hj hpid
    exact absurd (List.find?_eq_none.mp hr job (mem_of_mem_remove hj)) (by simpa using hpid)
  | some found =>
    intro job hj hpid
    have hperm := ((t.remove_perm pid).map Job.pid).nodup_iff.mp h
    rw [hr, Option.toList_some, List.singleton_append, List.map_cons] at hperm
    exact (List.nodup_cons.mp hperm).1 (List.mem_map.mpr ⟨job, hj, hpid.trans (mem_of_remove_eq_some hr).2.symm⟩)

/-- A removal leaves the jobs that other processes lead. -/
theorem remove_jobs (h : (t.jobs.map Job.pid).Nodup) :
    (t.remove pid).2.jobs = t.jobs.filter fun job => job.pid != pid := by
  obtain ⟨jobs, lastId⟩ := t
  induction jobs with
  | nil => rfl
  | cons job jobs ih =>
    obtain ⟨hnotin, hnodup⟩ := List.nodup_cons.mp h
    have ih : jobs.eraseP (fun j => j.pid == pid) = jobs.filter fun j => j.pid != pid := ih hnodup
    show (job :: jobs).eraseP (fun j => j.pid == pid) = (job :: jobs).filter fun j => j.pid != pid
    by_cases hp : job.pid = pid
    · subst hp
      have hothers : ∀ j ∈ jobs, (j.pid != job.pid) = true := fun j hj =>
        bne_iff_ne.mpr fun he => hnotin (List.mem_map.mpr ⟨j, hj, he⟩)
      rw [List.eraseP_cons_of_pos (by simp), List.filter_cons_of_neg (by simp), List.filter_eq_self.mpr hothers]
    · rw [List.eraseP_cons_of_neg (by simpa using hp), List.filter_cons_of_pos (by simpa using hp), ih]

/-- The jobs that are missing from the table behind a removal. -/
theorem filter_notMem_remove (h : t.jobs.Nodup) :
    t.jobs.filter (· ∉ (t.remove pid).2.jobs) = (t.remove pid).1.toList := by
  have hrest : (t.remove pid).2.jobs.filter (· ∉ (t.remove pid).2.jobs) = [] :=
    List.filter_eq_nil_iff.mpr fun job hj => by simpa using hj
  have hperm := (t.remove_perm pid).filter (· ∉ (t.remove pid).2.jobs)
  have hnodup := (t.remove_perm pid).nodup_iff.mp h
  rw [List.filter_append, hrest, List.append_nil] at hperm
  cases hr : (t.remove pid).1 with
  | none =>
    rw [hr] at hperm
    exact List.perm_nil.mp hperm
  | some found =>
    rw [hr, Option.toList_some, List.singleton_append] at hnodup
    rw [hr, Option.toList_some, List.filter_cons_of_pos (by simpa using (List.nodup_cons.mp hnodup).1)] at hperm
    exact List.perm_singleton.mp hperm

theorem add_of_absent (h : ∀ job ∈ t.jobs, job.pid ≠ pid) :
    t.add pid group text = (⟨t.lastId + 1, pid, group, text⟩,
      ⟨⟨t.lastId + 1, pid, group, text⟩ :: t.jobs, t.lastId + 1⟩) := by
  rw [add, remove_of_absent h]

end JobShell.JobTable
