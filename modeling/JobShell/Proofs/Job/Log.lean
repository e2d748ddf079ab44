import JobShell.Job.Registry
import JobShell.Proofs.Job.Table

/-! # The job table and its log

A log is what has been asked of a job table, in this order. What the table holds, and every answer that it has given,
can be read off the log alone: the jobs in the table are those that were added and that no later operation has taken
out or replaced. It makes no difference through which handles of the registry the operations come. -/

namespace JobShell.JobTable

/-- What can be asked of a job table. -/
inductive Operation
  | add (pid group : Int) (text : Text)
  | remove (pid : Int)
  | find (id : Nat)
  | list
deriving DecidableEq

inductive Answer
  | id (n : Nat)
  | job (found : Option Job)
  | jobs (all : List Job)
deriving DecidableEq

/-- What an operation is answered, and the table behind it. -/
def Operation.apply (t : JobTable) : Operation → Answer × JobTable
  | add pid group text => (.id (t.add pid group text).1.id, (t.add pid group text).2)
  | remove pid => (.job (t.remove pid).1, (t.remove pid).2)
  | find id => (.job (t.find? id), t)
  | list => (.jobs t.jobs, t)

/-- What the operations of a log are answered one after the other. -/
def operate (t : JobTable) : List Operation → List Answer × JobTable
  | [] => ([], t)
  | op :: log => ((op.apply t).1 :: (operate (op.apply t).2 log).1, (operate (op.apply t).2 log).2)

/-! ### Handles -/

/-- A handle of the registry. -/
abbrev Handle := Nat

/-- The registry: the table, and the handle that has taken it. -/
structure Locked where
  table : JobTable
  holder : Option Handle

/-- Runs a program that takes the table and gives it back through a handle. There is no result if the program waits for
a table that is taken, or gives back a table that it has not taken. -/
def through (h : Handle) : {α : Type} → Prog α → Locked → Option (α × Locked)
  | _, .done a, s => some (a, s)
  | _, .call .acquireJobs next, s =>
    if s.holder = none then through h (next s.table) { s with holder := some h } else none
  | _, .call (.releaseJobs t) next, s => if s.holder = some h then through h (next ()) ⟨t, none⟩ else none
  | _, _, _ => none

/-- The program of an operation. -/
def Operation.perform : Operation → Prog Answer
  | add pid group text => do
    let job ← Registry.update (·.add pid group text)
    return .id job.id
  | remove pid => do
    let found ← Registry.remove pid
    return .job found
  | find id => do
    let found ← Registry.find? id
    return .job found
  | list => do
    let all ← Registry.list
    return .jobs all

/-- Runs the operations of a log, each through its handle. -/
def operateThrough (s : Locked) : List (Handle × Operation) → Option (List Answer × Locked)
  | [] => some ([], s)
  | (h, op) :: log => do
    let (a, s) ← through h op.perform s
    let (answers, s) ← operateThrough s log
    return (a :: answers, s)

theorem through_update {α β : Type} (h : Handle) (f : JobTable → α × JobTable) (next : α → Prog β) (t : JobTable) :
    through h (Registry.update f >>= next) ⟨t, none⟩ = through h (next (f t).1) ⟨(f t).2, none⟩ := by
  show (if (none : Option Handle) = none then
    if some h = some h then through h (next (f t).1) ⟨(f t).2, none⟩ else none else none) = _
  rw [if_pos rfl, if_pos rfl]

theorem through_perform (h : Handle) (t : JobTable) (op : Operation) :
    through h op.perform ⟨t, none⟩ = some ((op.apply t).1, ⟨(op.apply t).2, none⟩) := by
  cases op with
  | add pid group text => exact through_update h (·.add pid group text) _ t
  | remove pid => exact through_update h (·.remove pid) _ t
  | find id => exact through_update h (fun t => (t.find? id, t)) _ t
  | list => exact through_update h (fun t => (t.jobs, t)) _ t

/-- The handles make no difference. -/
theorem operateThrough_eq (t : JobTable) (log : List (Handle × Operation)) : operateThrough ⟨t, none⟩ log =
    some ((operate t (log.map Prod.snd)).1, ⟨(operate t (log.map Prod.snd)).2, none⟩) := by
  induction log generalizing t with
  | nil => rfl
  | cons step log ih =>
    obtain ⟨h, op⟩ := step
    simp only [operateThrough, through_perform, Option.bind_eq_bind, Option.bind_some, ih]
    rfl

/-! ### What the log says -/

/-- How many jobs a log adds. -/
def adds (log : List Operation) : Nat :=
  log.countP fun
    | .add _ _ _ => true
    | _ => false

/-- The operation takes out, or replaces, the job led by a process. -/
def Operation.Ends (pid : Int) : Operation → Prop
  | add p _ _ => p = pid
  | remove p => p = pid
  | _ => False

/-- The `i`-th operation of a log adds a job. Its id says how many have been added until then. -/
def Adds (log : List Operation) (i : Nat) (job : Job) : Prop :=
  ∃ pid group text, log[i]? = some (.add pid group text) ∧ job = ⟨adds (log.take (i + 1)), pid, group, text⟩

/-- A log adds a job, and no later operation ends it. -/
def Stands (log : List Operation) (job : Job) : Prop :=
  ∃ i, Adds log i job ∧ ∀ j op, i < j → log[j]? = some op → ¬ op.Ends job.pid

/-- The answer to an operation behind a log. -/
def Fits (log : List Operation) : Operation → Answer → Prop
  | .add _ _ _, .id n => n = adds log + 1
  | .remove pid, .job found => ∀ job, found = some job ↔ Stands log job ∧ job.pid = pid
  | .find id, .job found => ∀ job, found = some job ↔ Stands log job ∧ job.id = id
  | .list, .jobs all => (∀ job, job ∈ all ↔ Stands log job) ∧ all.Pairwise fun a b => b.id < a.id
  | _, _ => False

variable {log : List Operation} {op : Operation} {t : JobTable} {job : Job} {i : Nat}

theorem adds_concat (log : List Operation) (op : Operation) :
    adds (log ++ [op]) = adds log + adds [op] := List.countP_append

theorem adds_concat_of_lt (h : i < log.length) : Adds (log ++ [op]) i job ↔ Adds log i job := by
  rw [Adds, Adds, List.getElem?_append_left h, List.take_append_of_le_length h]

theorem adds_concat_length : Adds (log ++ [op]) log.length job ↔
    ∃ pid group text, op = .add pid group text ∧ job = ⟨adds log + 1, pid, group, text⟩ := by
  have htake : (log ++ [op]).take (log.length + 1) = log ++ [op] := List.take_of_length_le (by simp)
  rw [Adds, List.getElem?_concat_length, htake, adds_concat]
  constructor
  · rintro ⟨pid, group, text, hop, rfl⟩
    cases hop
    exact ⟨pid, group, text, rfl, rfl⟩
  · rintro ⟨pid, group, text, rfl, rfl⟩
    exact ⟨pid, group, text, rfl, rfl⟩

theorem lt_of_adds (h : Adds log i job) : i < log.length := by
  obtain ⟨pid, group, text, hop, -⟩ := h
  exact (List.getElem?_eq_some_iff.mp hop).1

/-- Behind one more operation, the jobs that stand are those that it does not end, and the one that it adds. -/
theorem stands_concat : Stands (log ++ [op]) job ↔ (Stands log job ∧ ¬ op.Ends job.pid) ∨
    ∃ pid group text, op = .add pid group text ∧ job = ⟨adds log + 1, pid, group, text⟩ := by
  constructor
  · rintro ⟨i, hadds, hlater⟩
    have hi : i < log.length + 1 := by simpa using lt_of_adds hadds
    -- Either the job was added before the last operation, or by it.
    rcases Nat.lt_succ_iff_lt_or_eq.mp hi with hi | rfl
    · refine .inl ⟨⟨i, (adds_concat_of_lt hi).mp hadds, fun j o hj ho => ?_⟩, ?_⟩
      · have hlt : j < log.length := (List.getElem?_eq_some_iff.mp ho).1
        exact hlater j o hj (by rw [List.getElem?_append_left hlt, ho])
      · exact hlater log.length op hi List.getElem?_concat_length
    · exact .inr (adds_concat_length.mp hadds)
  · rintro (⟨⟨i, hadds, hlater⟩, hop⟩ | hnew)
    · have hi := lt_of_adds hadds
      refine ⟨i, (adds_concat_of_lt hi).mpr hadds, fun j o hj ho => ?_⟩
      have hle : j < log.length + 1 := by simpa using (List.getElem?_eq_some_iff.mp ho).1
      rcases Nat.lt_succ_iff_lt_or_eq.mp hle with hlt | rfl
      · rw [List.getElem?_append_left hlt] at ho
        exact hlater j o hj ho
      · rw [List.getElem?_concat_length] at ho
        cases ho
        exact hop
    · refine ⟨log.length, adds_concat_length.mpr hnew, fun j o hj ho => ?_⟩
      have hle : j < log.length + 1 := by simpa using (List.getElem?_eq_some_iff.mp ho).1
      omega

/-! ### The table follows its log -/

/-- The table is what its log says. -/
structure Follows (log : List Operation) (t : JobTable) : Prop where
  lastId : t.lastId = adds log
  mem : ∀ job, job ∈ t.jobs ↔ Stands log job
  newest : t.jobs.Pairwise fun a b => b.id < a.id
  pids : (t.jobs.map Job.pid).Nodup
  bounds : ∀ job ∈ t.jobs, 1 ≤ job.id ∧ job.id ≤ t.lastId

theorem follows_empty : Follows [] empty := by
  refine ⟨rfl, fun job => ⟨fun h => absurd h List.not_mem_nil, ?_⟩, .nil, .nil, fun _ h => absurd h List.not_mem_nil⟩
  rintro ⟨i, hadds, -⟩
  exact absurd (lt_of_adds hadds) (Nat.not_lt_zero i)

theorem mem_remove_iff (h : (t.jobs.map Job.pid).Nodup) {pid : Int} :
    job ∈ (t.remove pid).2.jobs ↔ job ∈ t.jobs ∧ job.pid ≠ pid := by
  rw [remove_jobs h, List.mem_filter, bne_iff_ne]

theorem remove_eq_some_iff (h : (t.jobs.map Job.pid).Nodup) {pid : Int} :
    (t.remove pid).1 = some job ↔ job ∈ t.jobs ∧ job.pid = pid :=
  find?_key_eq_some_iff h

theorem Follows.find?_eq_some_iff (h : Follows log t) {id : Nat} :
    t.find? id = some job ↔ job ∈ t.jobs ∧ job.id = id := by
  refine find?_key_eq_some_iff ?_
  rw [List.Nodup, List.pairwise_map]
  exact h.newest.imp fun hlt => (Nat.ne_of_lt hlt).symm

theorem Follows.remove (h : Follows log t) (pid : Int) : Follows (log ++ [.remove pid]) (t.remove pid).2 := by
  have hsub : (t.remove pid).2.jobs.Sublist t.jobs := List.eraseP_sublist
  refine ⟨?_, fun job => ?_, h.newest.sublist hsub, (hsub.map Job.pid).nodup h.pids, fun job hj =>
    h.bounds job (hsub.subset hj)⟩
  · rw [adds_concat]
    exact h.lastId
  · rw [mem_remove_iff h.pids, h.mem, stands_concat]
    constructor
    · rintro ⟨hs, hne⟩
      exact .inl ⟨hs, fun he => hne he.symm⟩
    · rintro (⟨hs, hne⟩ | ⟨_, _, _, hop, -⟩)
      · exact ⟨hs, fun he => hne he.symm⟩
      · cases hop

theorem Follows.add (h : Follows log t) (pid group : Int) (text : Text) :
    Follows (log ++ [.add pid group text]) (t.add pid group text).2 := by
  -- The table without the job of the same leader, and the new job in front of it.
  let new : Job := ⟨t.lastId + 1, pid, group, text⟩
  have hjobs : (t.add pid group text).2.jobs = new :: (t.remove pid).2.jobs := rfl
  have hrest := h.remove pid
  have hold : ∀ job ∈ (t.remove pid).2.jobs, 1 ≤ job.id ∧ job.id ≤ t.lastId := hrest.bounds
  refine ⟨?_, fun job => ?_, ?_, ?_, ?_⟩
  · rw [adds_concat, ← h.lastId]
    rfl
  · rw [hjobs, List.mem_cons, mem_remove_iff h.pids, h.mem, stands_concat]
    constructor
    · rintro (rfl | ⟨hs, hne⟩)
      · exact .inr ⟨pid, group, text, rfl, by rw [← h.lastId]⟩
      · exact .inl ⟨hs, fun he => hne he.symm⟩
    · rintro (⟨hs, hne⟩ | ⟨_, _, _, hop, rfl⟩)
      · exact .inr ⟨hs, fun he => hne he.symm⟩
      · cases hop
        exact .inl (by rw [← h.lastId])
  · rw [hjobs]
    exact .cons (fun job hj => Nat.lt_succ_of_le (hold job hj).2) hrest.newest
  · rw [hjobs, List.map_cons, List.nodup_cons]
    refine ⟨fun hmem => ?_, hrest.pids⟩
    obtain ⟨job, hj, hpid⟩ := List.mem_map.mp hmem
    exact absent_remove h.pids job hj hpid
  · rw [hjobs]
    exact List.forall_mem_cons.mpr ⟨⟨Nat.le_add_left 1 _, Nat.le_refl _⟩, fun job hj =>
      ⟨(hold job hj).1, Nat.le_succ_of_le (hold job hj).2⟩⟩

/-- An operation that only looks. -/
theorem Follows.look (h : Follows log t) (hadds : adds [op] = 0) (hends : ∀ pid, ¬ op.Ends pid) :
    Follows (log ++ [op]) t := by
  refine ⟨by rw [adds_concat, hadds]; exact h.lastId, fun job => ?_, h.newest, h.pids, h.bounds⟩
  rw [h.mem, stands_concat]
  constructor
  · exact fun hs => .inl ⟨hs, hends job.pid⟩
  · rintro (⟨hs, -⟩ | ⟨_, _, _, rfl, -⟩)
    · exact hs
    · cases hadds

/-- What one operation does to a table that follows its log. -/
theorem Follows.apply (h : Follows log t) (op : Operation) :
    Fits log op (op.apply t).1 ∧ Follows (log ++ [op]) (op.apply t).2 := by
  cases op with
  | add pid group text => exact ⟨congrArg (· + 1) h.lastId, h.add pid group text⟩
  | remove pid => exact ⟨fun job => by rw [remove_eq_some_iff h.pids, h.mem], h.remove pid⟩
  | find id => exact ⟨fun job => by rw [h.find?_eq_some_iff, h.mem], h.look rfl fun _ => not_false⟩
  | list => exact ⟨⟨h.mem, h.newest⟩, h.look rfl fun _ => not_false⟩

/-- Every answer fits what was asked before. -/
theorem Follows.operate (h : Follows log t) (ops : List Operation) : Follows (log ++ ops) (t.operate ops).2 ∧
    (t.operate ops).1.length = ops.length ∧
    ∀ i op, ops[i]? = some op → ∃ a, (t.operate ops).1[i]? = some a ∧ Fits (log ++ ops.take i) op a := by
  induction ops generalizing log t with
  | nil => exact ⟨by rwa [List.append_nil], rfl, fun i op hop => by simp at hop⟩
  | cons op ops ih =>
    obtain ⟨hfits, hnext⟩ := h.apply op
    obtain ⟨hfollows, hlength, hanswers⟩ := ih hnext
    rw [List.append_assoc] at hfollows
    refine ⟨hfollows, congrArg (· + 1) hlength, fun i o ho => ?_⟩
    cases i with
    | zero =>
      cases ho
      exact ⟨_, rfl, by rwa [List.take_zero, List.append_nil]⟩
    | succ i =>
      obtain ⟨a, ha, hfit⟩ := hanswers i o ho
      rw [List.append_assoc] at hfit
      exact ⟨a, ha, hfit⟩

theorem remove_remove (h : (t.jobs.map Job.pid).Nodup) (pid : Int) :
    (t.remove pid).2.remove pid = (none, (t.remove pid).2) :=
  remove_of_absent (absent_remove h)

/-- The job table and its registry, whatever they are asked and through whatever handles: the `k`-th job that is added
gets the id `k`; every answer is the one that the log so far asks for; and the table lists the jobs that were added
and neither removed nor replaced since, newest first. So no two jobs have the same leader, the ids decrease along the
list and count the additions, an id finds its job as long as it stands, and a removal takes out the job of a process
and no other, once. -/
theorem registry_follows_log (log : List (Handle × Operation)) : ∃ answers t,
    operate empty (log.map Prod.snd) = (answers, t) ∧
    operateThrough ⟨empty, none⟩ log = some (answers, ⟨t, none⟩) ∧
    answers.length = log.length ∧
    (∀ i op, (log.map Prod.snd)[i]? = some op → ∃ a, answers[i]? = some a ∧ Fits ((log.map Prod.snd).take i) op a) ∧
    (∀ job, job ∈ t.jobs ↔ Stands (log.map Prod.snd) job) ∧
    (t.jobs.Pairwise fun a b => b.id < a.id) ∧ (t.jobs.map Job.pid).Nodup ∧
    (∀ job ∈ t.jobs, 1 ≤ job.id ∧ job.id ≤ adds (log.map Prod.snd)) ∧
    (∀ id job, t.find? id = some job ↔ job ∈ t.jobs ∧ job.id = id) ∧
    (∀ pid job, (t.remove pid).1 = some job ↔ job ∈ t.jobs ∧ job.pid = pid) ∧
    ∀ pid, (t.remove pid).2.jobs = t.jobs.filter (fun job => job.pid != pid) ∧
      (t.remove pid).2.remove pid = (none, (t.remove pid).2) := by
  obtain ⟨hfollows, hlength, hanswers⟩ := follows_empty.operate (log.map Prod.snd)
  rw [List.nil_append] at hfollows
  have hbounds := hfollows.bounds
  rw [hfollows.lastId] at hbounds
  refine ⟨_, _, rfl, operateThrough_eq empty log, by rw [hlength, List.length_map], fun i op hop => ?_, hfollows.mem,
    hfollows.newest, hfollows.pids, hbounds, fun _ _ => hfollows.find?_eq_some_iff,
    fun _ _ => remove_eq_some_iff hfollows.pids, fun pid =>
    ⟨remove_jobs hfollows.pids, remove_remove hfollows.pids pid⟩⟩
  obtain ⟨a, ha, hfit⟩ := hanswers i op hop
  exact ⟨a, ha, by rwa [List.nil_append] at hfit⟩

end JobShell.JobTable
