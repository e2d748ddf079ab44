import JobShell.Proofs.Job.Log

/-! # What becomes of a job table

One table becomes another by adding and removing jobs. The lines that are evaluated do nothing else to the job table,
and the texts that they add have no line feed. -/

namespace JobShell.JobTable

variable {t t' t'' : JobTable} {job : Job}

/-- The operation adds no text with a line feed. -/
def Operation.OnOneLine : Operation → Prop
  | add _ _ text => '\n' ∉ text
  | _ => True

theorem operate_append (t : JobTable) (log later : List Operation) :
    (t.operate (log ++ later)).2 = ((t.operate log).2.operate later).2 := by
  induction log generalizing t with
  | nil => rfl
  | cons op log ih => exact ih (op.apply t).2

/-- Operations lead from one table to the other. -/
def Becomes (t t' : JobTable) : Prop :=
  ∃ log : List Operation, (∀ op ∈ log, op.OnOneLine) ∧ t' = (t.operate log).2

namespace Becomes

theorem refl (t : JobTable) : Becomes t t := ⟨[], by simp, rfl⟩

theorem trans (h : Becomes t t') (h' : Becomes t' t'') : Becomes t t'' := by
  obtain ⟨log, hlog, rfl⟩ := h
  obtain ⟨later, hlater, rfl⟩ := h'
  refine ⟨log ++ later, fun op hop => ?_, (operate_append t log later).symm⟩
  rcases List.mem_append.mp hop with hop | hop
  · exact hlog op hop
  · exact hlater op hop

theorem remove (h : Becomes t t') (pid : Int) : Becomes t (t'.remove pid).2 :=
  h.trans ⟨[.remove pid], by simp [Operation.OnOneLine], rfl⟩

theorem add (h : Becomes t t') (pid group : Int) {text : Text} (htext : '\n' ∉ text) :
    Becomes t (t'.add pid group text).2 :=
  h.trans ⟨[.add pid group text], by simpa [Operation.OnOneLine] using htext, rfl⟩

theorem follows {log : List Operation} (h : Becomes t t') (ht : Follows log t) :
    ∃ later, Follows (log ++ later) t' := by
  obtain ⟨later, -, rfl⟩ := h
  exact ⟨later, (ht.operate later).1⟩

/-- The texts of the jobs are the texts that were added. -/
theorem lineFeed_notMem_text (h : Becomes empty t) (hjob : job ∈ t.jobs) : '\n' ∉ job.text := by
  obtain ⟨log, hlog, rfl⟩ := h
  have hfollows := (follows_empty.operate log).1
  obtain ⟨i, ⟨pid, group, text, hop, rfl⟩, -⟩ := (hfollows.mem job).mp hjob
  exact hlog _ (List.mem_of_getElem? hop)

end Becomes

end JobShell.JobTable
