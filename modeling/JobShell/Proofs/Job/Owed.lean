import JobShell.Proofs.Job.Reaper
import JobShell.Proofs.Job.Table
import Mathlib.Data.List.Nodup

/-! # Who removes the job of a collected process

A job whose leader has been collected may still be in the table, but then one of the threads is about to remove it.
The reaper is, from the moment when it collects a process; the interpreter is, from the moment when it waits for the
job that a line addresses. A leader that is collected before its job is added is collected by the reaper, and the
reaper cannot look for the job before the table is given back with the job in it. -/

namespace JobShell.Threads

/-- The table, if the thread has it. -/
def Shared.heldBy (s : Shared) (θ : Thread) : Option JobTable := if s.holder = some θ then some s.table else none

/-- The jobs in the table, and those that were removed from it. -/
structure Books (s : Shared) (removed : List Job) : Prop where
  positive : ∀ pid, s.Born pid → 0 < pid
  pids : (s.table.jobs.map Job.pid).Nodup
  born : ∀ job ∈ s.table.jobs, s.Born job.pid
  ids : ((removed ++ s.table.jobs).map Job.id).Nodup
  le : ∀ job ∈ removed ++ s.table.jobs, job.id ≤ s.table.lastId
  collected : ∀ job ∈ removed, s.fates job.pid = .collected

/-- What the interpreter knows is so. -/
structure Knows (s : Shared) (removed : List Job) (k : Sight) : Prop where
  held : k.held = s.heldBy .interpreter
  forked : ∀ pid ∈ k.record.forked, s.Born pid
  fresh : ∀ pid ∈ k.fresh, k.Own pid
  own : ∀ pid, k.Own pid → (∀ job ∈ k.seen, job.pid ≠ pid) ∧ ∀ job ∈ s.table.jobs, job.pid ≠ pid
  seen : ∀ job ∈ k.seen, s.Born job.pid ∧ ∀ j ∈ s.table.jobs, j.pid = job.pid → j = job
  gone : ∀ pid ∈ k.gone, s.fates pid = .collected
  dropped : ∀ pid ∈ k.dropped, (∃ job ∈ k.seen, job.pid = pid) ∧ ∀ job ∈ s.table.jobs, job.pid ≠ pid
  added : ∀ job ∈ k.added, job ∈ removed ++ s.table.jobs

/-- A job that is led by a collected process is about to be removed. This also holds of the jobs that are about to be
added. -/
structure Owing (s : Shared) (k : Sight) (g : Reaping) : Prop where
  held : g.held = s.heldBy .reaper
  owed : ∀ pid, g.owed = some pid → s.fates pid = .collected
  table : ∀ job ∈ s.table.jobs, s.fates job.pid = .collected → job.pid ∈ k.gone ∨ g.owed = some job.pid
  fresh : k.held.isSome → ∀ pid ∈ k.fresh, s.fates pid = .collected → pid ∈ k.gone ∨ g.owed = some pid

/-- The fates go on, and the jobs stay. -/
structure Onward (s s' : Shared) : Prop where
  table : s'.table = s.table
  holder : s'.holder = s.holder
  born : ∀ pid, s.Born pid → s'.Born pid
  collected : ∀ pid, s.fates pid = .collected → s'.fates pid = .collected

variable {s s' : Shared} {removed : List Job} {k : Sight} {g : Reaping} {pid : Pid}

/-! ### Fates -/

theorem fates_become {fate : Fate} : (s.become pid fate).fates pid = fate := by
  simp only [Shared.become, Function.update_self]

theorem fates_become_of_ne {fate : Fate} {pid' : Pid} (h : pid' ≠ pid) :
    (s.become pid fate).fates pid' = s.fates pid' := by
  simp only [Shared.become, Function.update_of_ne h]

theorem fates_become_eq_collected {pid' : Pid} {fate : Fate}
    (h : (s.become pid fate).fates pid' = .collected) : s.fates pid' = .collected ∨ pid' = pid ∧ fate = .collected := by
  by_cases hne : pid' = pid
  · subst hne
    rw [fates_become] at h
    exact .inr ⟨rfl, h⟩
  · rw [fates_become_of_ne hne] at h
    exact .inl h

theorem born_become {pid' : Pid} {fate : Fate} (h : (s.become pid fate).Born pid') :
    s.Born pid' ∨ pid' = pid := by
  by_cases hne : pid' = pid
  · exact .inr hne
  · rw [Shared.Born, fates_become_of_ne hne] at h
    exact .inl h

theorem onward_become {fate : Fate} (hf : fate ≠ .unborn) (hp : s.fates pid ≠ .collected) :
    Onward s (s.become pid fate) := by
  refine ⟨rfl, rfl, fun pid' h => ?_, fun pid' h => ?_⟩
  · by_cases hne : pid' = pid
    · subst hne
      rw [Shared.Born, fates_become]
      exact hf
    · rw [Shared.Born, fates_become_of_ne hne]
      exact h
  · have hne : pid' ≠ pid := fun he => hp (he ▸ h)
    rw [fates_become_of_ne hne, h]

theorem Books.onward (h : Books s removed) (hs : Onward s s') (hpos : ∀ pid, s'.Born pid → 0 < pid) :
    Books s' removed := by
  obtain ⟨-, hpids, hborn, hids, hle, hcollected⟩ := h
  rw [← hs.table] at hpids hborn hids hle
  exact ⟨hpos, hpids, fun job hj => hs.born _ (hborn job hj), hids, hle, fun job hj => hs.collected _ (hcollected job hj)⟩

theorem Books.become {fate : Fate} (h : Books s removed)
    (hf : fate ≠ .unborn) (hp : s.fates pid ≠ .collected) (hpos : 0 < pid) : Books (s.become pid fate) removed :=
  h.onward (onward_become hf hp) fun pid' hpid => (born_become hpid).elim (h.positive pid') fun he => he ▸ hpos

theorem Knows.onward (h : Knows s removed k) (hs : Onward s s') : Knows s' removed k := by
  obtain ⟨hheld, hforked, hfresh, hown, hseen, hgone, hdropped, hadded⟩ := h
  rw [← hs.table] at hown hseen hdropped hadded
  have hsame : s'.heldBy .interpreter = s.heldBy .interpreter := by
    rw [Shared.heldBy, Shared.heldBy, hs.table, hs.holder]
  exact ⟨hheld.trans hsame.symm, fun pid hpid => hs.born _ (hforked pid hpid), hfresh, hown,
    fun job hj => ⟨hs.born _ (hseen job hj).1, (hseen job hj).2⟩, fun pid hpid => hs.collected _ (hgone pid hpid),
    hdropped, hadded⟩

theorem Onward.refl (s : Shared) : Onward s s := ⟨rfl, rfl, fun _ h => h, fun _ h => h⟩

/-- What is owed goes on with the fates, if one of the threads owes what has been collected now. -/
theorem Owing.onward {k' : Sight} {g' : Reaping} (h : Owing s k g) (hs : Onward s s') (hheld : g'.held = g.held)
    (howed : ∀ pid, g'.owed = some pid → s'.fates pid = .collected)
    (hkeep : ∀ pid, pid ∈ k.gone ∨ g.owed = some pid → pid ∈ k'.gone ∨ g'.owed = some pid)
    (hnew : ∀ pid, s'.fates pid = .collected → s.fates pid = .collected ∨ pid ∈ k'.gone ∨ g'.owed = some pid)
    (hk : k'.held = k.held) (hfresh : ∀ pid ∈ k'.fresh, s'.fates pid = .collected → pid ∈ k.fresh) :
    Owing s' k' g' := by
  refine ⟨?_, howed, fun job hj hc => ?_, fun hsome pid hpid hc => ?_⟩
  · rw [hheld, h.held, Shared.heldBy, Shared.heldBy, hs.table, hs.holder]
  · rw [hs.table] at hj
    exact (hnew _ hc).elim (fun hc => hkeep _ (h.table job hj hc)) id
  · rw [hk] at hsome
    exact (hnew _ hc).elim (fun hc' => hkeep _ (h.fresh hsome pid (hfresh pid hpid hc) hc')) id

theorem Owing.ends {fate : Fate} (h : Owing s k g) (hf : fate ≠ .unborn) (hc : fate ≠ .collected)
    (hp : s.fates pid ≠ .collected) : Owing (s.become pid fate) k g :=
  have hs := onward_become hf hp
  h.onward hs rfl (fun pid' ho => hs.collected _ (h.owed pid' ho)) (fun _ h => h)
    (fun _ h => (fates_become_eq_collected h).elim .inl fun h => absurd h.2 hc) rfl fun _ hpid _ => hpid

theorem Owing.forks (h : Owing s k g) (hp : s.fates pid ≠ .collected) :
    Owing (s.become pid .running) (k.forks [pid]) g := by
  have hs : Onward s (s.become pid .running) := onward_become (by simp) hp
  refine h.onward hs rfl (fun pid' ho => hs.collected _ (h.owed pid' ho)) (fun _ h => h)
    (fun _ hc => (fates_become_eq_collected hc).elim .inl fun h => by cases h.2) rfl fun pid' hpid hc => ?_
  rcases List.mem_append.mp hpid with hpid | hpid
  · exact hpid
  · rw [List.mem_singleton.mp hpid, fates_become] at hc
    cases hc

/-- What the interpreter has waited for it owes. -/
theorem Owing.waits {lost : List Pid} (h : Owing s k g) (hs : Onward s s')
    (hnew : ∀ pid', s'.fates pid' = .collected → s.fates pid' = .collected ∨ pid' = pid) :
    Owing s' (k.waits lost [pid]) g := by
  refine h.onward hs rfl (fun pid' ho => hs.collected _ (h.owed pid' ho)) (fun pid' => ?_) (fun pid' hc => ?_) rfl
    fun _ hpid _ => hpid
  · exact Or.imp_left (List.mem_append_left _)
  · exact (hnew pid' hc).imp_right fun he => .inl (List.mem_append_right _ (List.mem_singleton.mpr he))

/-- What the reaper has collected it owes. -/
theorem Owing.collects (h : Owing s k g) (hp : s.fates pid ≠ .collected) (ho : g.owed = none) :
    Owing (s.become pid .collected) k (g.collects pid) := by
  have hs : Onward s (s.become pid .collected) := onward_become (by simp) hp
  refine h.onward hs rfl (fun pid' ho' => ?_) (fun pid' => ?_) (fun pid' hc => ?_) rfl fun _ hpid _ => hpid
  · cases ho'
    exact fates_become
  · rw [ho]
    exact Or.imp_right fun h => by cases h
  · exact (fates_become_eq_collected hc).imp_right fun h => .inr (congrArg some h.1.symm)

/-! ### The interpreter -/

/-- A fork: the new child leads no job, as no job is led by a process that was not there. -/
theorem Knows.forks (h : Knows s removed k) (hb : Books s removed) (hp : s.fates pid = .unborn) :
    Knows (s.become pid .running) removed (k.forks [pid]) := by
  have hs : Onward s (s.become pid .running) :=
    onward_become (by simp) (by rw [hp]; simp)
  -- Whoever leads a job, or has led one, was there before.
  have hne : ∀ pid', s.Born pid' → pid' ≠ pid := fun pid' h he => h (he ▸ hp)
  have hadded : ∀ job ∈ k.added, job.pid ≠ pid := by
    intro job hj
    rcases List.mem_append.mp (h.added job hj) with hr | ht
    · refine hne _ fun hu => ?_
      rw [hb.collected job hr] at hu
      cases hu
    · exact hne _ (hb.born job ht)
  have hborn : (s.become pid .running).Born pid := by
    rw [Shared.Born, fates_become]
    simp
  have hthen := h.onward hs
  refine { hthen with forked := ?_, fresh := ?_, own := ?_ }
  · intro pid' hpid
    rcases List.mem_append.mp hpid with hpid | hpid
    · exact hthen.forked pid' hpid
    · obtain rfl := List.mem_singleton.mp hpid
      exact hborn
  · intro pid' hpid
    rcases List.mem_append.mp hpid with hpid | hpid
    · exact ⟨List.mem_append_left _ (h.fresh pid' hpid).1, (h.fresh pid' hpid).2⟩
    · obtain rfl := List.mem_singleton.mp hpid
      exact ⟨List.mem_append_right _ hpid, hadded⟩
  · rintro pid' ⟨hpid, hno⟩
    rcases List.mem_append.mp hpid with hpid | hpid
    · exact hthen.own pid' ⟨hpid, hno⟩
    · obtain rfl := List.mem_singleton.mp hpid
      exact ⟨fun job hj => hne _ (h.seen job hj).1, fun job hj => hne _ (hb.born job hj)⟩

theorem Knows.waits {lost pids : List Pid} (h : Knows s removed k) (hc : ∀ pid ∈ pids, s.fates pid = .collected) :
    Knows s removed (k.waits lost pids) := by
  refine { h with gone := fun pid hpid => ?_ }
  exact (List.mem_append.mp hpid).elim (h.gone pid) (hc pid)

theorem Knows.takes (h : Knows s removed k) (hb : Books s removed) :
    Knows { s with holder := some .interpreter } removed (k.takes s.table) := by
  refine { h with held := ?_, fresh := ?_, own := ?_, seen := ?_, dropped := ?_ }
  · simp [Sight.takes, Shared.heldBy]
  · exact fun pid hpid => absurd hpid List.not_mem_nil
  · intro pid hpid
    obtain ⟨hseen, htable⟩ := h.own pid hpid
    exact ⟨fun job hj => (List.mem_append.mp hj).elim (hseen job) (htable job), htable⟩
  · intro job hj
    rcases List.mem_append.mp hj with hj | hj
    · exact h.seen job hj
    · exact ⟨hb.born job hj, fun j hj' hpid => List.inj_on_of_nodup_map hb.pids hj' hj hpid⟩
  · intro pid hpid
    obtain ⟨⟨job, hj, hpid'⟩, htable⟩ := h.dropped pid hpid
    exact ⟨⟨job, List.mem_append_left _ hj, hpid'⟩, htable⟩

/-- The table is given back with no more jobs than it had. -/
theorem Knows.fewer {t : JobTable} {removed' : List Job} (h : Knows s removed k) (fresh : List Pid)
    (hf : ∀ pid ∈ fresh, pid ∈ k.fresh) (ht : ∀ job ∈ t.jobs, job ∈ s.table.jobs)
    (hr : ∀ job ∈ removed ++ s.table.jobs, job ∈ removed' ++ t.jobs) :
    Knows { s with table := t, holder := none } removed' { k with held := none, fresh } where
  held := rfl
  forked := h.forked
  fresh pid hpid := h.fresh pid (hf pid hpid)
  own pid hpid := ⟨(h.own pid hpid).1, fun job hj => (h.own pid hpid).2 job (ht job hj)⟩
  seen job hj := ⟨(h.seen job hj).1, fun j hj' => (h.seen job hj).2 j (ht j hj')⟩
  gone := h.gone
  dropped pid hpid := ⟨(h.dropped pid hpid).1, fun job hj => (h.dropped pid hpid).2 job (ht job hj)⟩
  added job hj := hr job (h.added job hj)

theorem mem_remove (pid : Pid) {job : Job} (h : job ∈ removed ++ s.table.jobs) :
    job ∈ (removed ++ (s.table.remove pid).1.toList) ++ (s.table.remove pid).2.jobs := by
  rw [List.append_assoc]
  refine (List.mem_append.mp h).elim (List.mem_append_left _) fun h => List.mem_append_right _ ?_
  exact (s.table.remove_perm pid).mem_iff.mp h

theorem Knows.gives (h : Knows s removed k) : Knows { s with holder := none } removed k.gives :=
  h.fewer [] (fun _ hpid => absurd hpid List.not_mem_nil) (fun _ hj => hj) fun _ hj => hj

theorem Knows.drops {job : Job} (h : Knows s removed k) (hb : Books s removed) (hs : job ∈ k.seen) :
    Knows { s with table := (s.table.remove job.pid).2, holder := none }
      (removed ++ (s.table.remove job.pid).1.toList) (k.drops job.pid) := by
  have hfewer := h.fewer [] (fun _ hpid => absurd hpid List.not_mem_nil)
    (fun _ => JobTable.mem_of_mem_remove) fun _ => mem_remove job.pid
  refine { hfewer with dropped := fun pid hpid => ?_ }
  rcases List.mem_cons.mp hpid with rfl | hpid
  · exact ⟨⟨job, hs, rfl⟩, JobTable.absent_remove hb.pids⟩
  · exact hfewer.dropped pid hpid

theorem Knows.adds {leader group : Pid} {text : Text} (h : Knows s removed k) (ho : k.Own leader) :
    Knows { s with table := (s.table.add leader group text).2, holder := none } removed
      (k.adds (s.table.add leader group text).1) := by
  obtain ⟨hseen, htable⟩ := h.own leader ho
  rw [JobTable.add_of_absent htable]
  have hgives := h.gives
  refine { hgives with
    held := rfl
    fresh := fun _ hpid => absurd hpid List.not_mem_nil
    own := ?_
    seen := ?_
    dropped := ?_
    added := ?_ }
  · rintro pid ⟨hpid, hno⟩
    obtain ⟨hne, hno⟩ := List.forall_mem_cons.mp hno
    exact ⟨(h.own pid ⟨hpid, hno⟩).1, List.forall_mem_cons.mpr ⟨hne, (h.own pid ⟨hpid, hno⟩).2⟩⟩
  · intro job hj
    refine ⟨(h.seen job hj).1, List.forall_mem_cons.mpr ⟨fun hpid => ?_, (h.seen job hj).2⟩⟩
    exact absurd hpid.symm (hseen job hj)
  · intro pid hpid
    obtain ⟨⟨job, hj, rfl⟩, hno⟩ := h.dropped pid hpid
    exact ⟨⟨job, hj, rfl⟩, List.forall_mem_cons.mpr ⟨(hseen job hj).symm, hno⟩⟩
  · intro job hj
    rcases List.mem_cons.mp hj with rfl | hj
    · exact List.mem_append_right _ List.mem_cons_self
    · exact (List.mem_append.mp (h.added job hj)).elim (List.mem_append_left _)
        fun h => List.mem_append_right _ (List.mem_cons_of_mem _ h)

/-! ### The table and the removed jobs -/

theorem Books.holder (h : Books s removed) (θ : Option Thread) : Books { s with holder := θ } removed :=
  ⟨h.positive, h.pids, h.born, h.ids, h.le, h.collected⟩

theorem Books.removes (h : Books s removed) (hc : s.fates pid = .collected) :
    Books { s with table := (s.table.remove pid).2, holder := none } (removed ++ (s.table.remove pid).1.toList) := by
  have hperm : (removed ++ s.table.jobs).Perm
      ((removed ++ (s.table.remove pid).1.toList) ++ (s.table.remove pid).2.jobs) := by
    rw [List.append_assoc]
    exact (s.table.remove_perm pid).append_left removed
  refine ⟨h.positive, ?_, fun job hj => h.born job (JobTable.mem_of_mem_remove hj), (hperm.map Job.id).nodup_iff.mp h.ids,
    fun job hj => h.le job (hperm.mem_iff.mpr hj), fun job hj => ?_⟩
  · exact (List.eraseP_sublist.map Job.pid).nodup h.pids
  · rcases List.mem_append.mp hj with hj | hj
    · exact h.collected job hj
    · rw [(JobTable.mem_of_remove_eq_some (Option.mem_toList.mp hj)).2]
      exact hc

theorem Books.adds {leader group : Pid} {text : Text} (h : Books s removed) (hborn : s.Born leader)
    (habsent : ∀ job ∈ s.table.jobs, job.pid ≠ leader) :
    Books { s with table := (s.table.add leader group text).2, holder := none } removed := by
  rw [JobTable.add_of_absent habsent]
  -- The number of the new job is larger than all that were given before.
  let new : Job := ⟨s.table.lastId + 1, leader, group, text⟩
  have hmiddle : (removed ++ new :: s.table.jobs).Perm (new :: (removed ++ s.table.jobs)) := List.perm_middle
  have hle : ∀ job ∈ new :: (removed ++ s.table.jobs), job.id ≤ s.table.lastId + 1 :=
    List.forall_mem_cons.mpr ⟨Nat.le_refl _, fun job hj => Nat.le_succ_of_le (h.le job hj)⟩
  refine ⟨h.positive, ?_, List.forall_mem_cons.mpr ⟨hborn, h.born⟩, ?_, fun job hj => hle job (hmiddle.mem_iff.mp hj),
    h.collected⟩
  · refine List.nodup_cons.mpr ⟨fun hmem => ?_, h.pids⟩
    obtain ⟨job, hj, hpid⟩ := List.mem_map.mp hmem
    exact habsent job hj hpid
  · refine (hmiddle.map Job.id).nodup_iff.mpr (List.nodup_cons.mpr ⟨fun hmem => ?_, h.ids⟩)
    obtain ⟨job, hj, hid⟩ := List.mem_map.mp hmem
    have hlt : job.id ≤ s.table.lastId := h.le job hj
    rw [hid] at hlt
    exact absurd hlt (Nat.not_succ_le_self _)

/-! ### What is owed -/

theorem Owing.takes (h : Owing s k g) (hs : s.holder = none) :
    Owing { s with holder := some .interpreter } (k.takes s.table) g := by
  refine ⟨?_, h.owed, h.table, fun _ pid hpid => absurd hpid List.not_mem_nil⟩
  rw [h.held, Shared.heldBy, Shared.heldBy, hs]
  rfl

/-- The interpreter gives the table back with no more jobs than it had. -/
theorem Owing.fewer {t : JobTable} {k' : Sight} (h : Owing s k g) (hs : s.holder = some .interpreter)
    (ht : ∀ job ∈ t.jobs, job ∈ s.table.jobs) (hk : k'.gone = k.gone) (hheld : k'.held = none) :
    Owing { s with table := t, holder := none } k' g := by
  refine ⟨?_, h.owed, fun job hj hc => ?_, fun hsome => ?_⟩
  · rw [h.held, Shared.heldBy, Shared.heldBy, hs]
    rfl
  · rw [hk]
    exact h.table job (ht job hj) hc
  · rw [hheld] at hsome
    cases hsome

/-- A leader that was collected before its job is added is owed by the one who has collected it. -/
theorem Owing.adds {leader group : Pid} {text : Text} (h : Owing s k g) (hs : s.holder = some .interpreter)
    (hk : k.held.isSome) (hleader : leader ∈ k.fresh) (habsent : ∀ job ∈ s.table.jobs, job.pid ≠ leader) :
    Owing { s with table := (s.table.add leader group text).2, holder := none }
      (k.adds (s.table.add leader group text).1) g := by
  rw [JobTable.add_of_absent habsent]
  refine ⟨?_, h.owed, List.forall_mem_cons.mpr ⟨h.fresh hk leader hleader, h.table⟩, fun hsome => ?_⟩
  · rw [h.held, Shared.heldBy, Shared.heldBy, hs]
    rfl
  · cases hsome

/-! ### The reaper -/

theorem Shared.heldBy_of_ne {θ : Thread} (h : s.holder ≠ some θ) : s.heldBy θ = none := if_neg h

theorem Knows.held_eq_none (h : Knows s removed k) (hs : s.holder ≠ some .interpreter) : k.held = none :=
  h.held.trans (Shared.heldBy_of_ne hs)

theorem Knows.reaperTakes (h : Knows s removed k) (hs : s.holder = none) :
    Knows { s with holder := some .reaper } removed k := by
  have hk : k.held = none := h.held_eq_none (by rw [hs]; simp)
  exact { h with held := hk.trans (Shared.heldBy_of_ne (by simp)).symm }

theorem Knows.reaperDrops (h : Knows s removed k) (hk : k.held = none) :
    Knows { s with table := (s.table.remove pid).2, holder := none } (removed ++ (s.table.remove pid).1.toList) k := by
  have hfewer := h.fewer k.fresh (fun _ hpid => hpid) (fun _ => JobTable.mem_of_mem_remove)
    fun _ => mem_remove pid
  cases k
  cases hk
  exact hfewer

theorem Owing.reaperTakes (h : Owing s k g) (hk : k.held = none) :
    Owing { s with holder := some .reaper } k (g.takes s.table) := by
  refine ⟨?_, h.owed, h.table, fun hsome => ?_⟩
  · simp [Reaping.takes, Shared.heldBy]
  · rw [hk] at hsome
    cases hsome

/-- The reaper removes the job that it owes, and then it owes nothing. -/
theorem Owing.reaperDrops (h : Owing s k g) (hb : Books s removed) (hk : k.held = none) (ho : g.owed = some pid) :
    Owing { s with table := (s.table.remove pid).2, holder := none } k (g.drops (s.table.remove pid).1) := by
  refine ⟨rfl, fun pid hpid => ?_, fun job hj hc => ?_, fun hsome => ?_⟩
  · cases hpid
  · refine (h.table job (JobTable.mem_of_mem_remove hj) hc).imp_right fun howed => ?_
    rw [ho] at howed
    exact absurd (Option.some.inj howed).symm (JobTable.absent_remove hb.pids job hj)
  · rw [hk] at hsome
    cases hsome

end JobShell.Threads
