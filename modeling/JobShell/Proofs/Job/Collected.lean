import JobShell.Proofs.Job.Owed

/-! # The job table against the children that were collected

When neither thread is at work, the jobs in the table are those whose leader has not been collected, and each job that
is no longer there was removed once: by the reaper, which answers it, or by the line that addressed it. -/

namespace JobShell.Threads

/-- The jobs that the reaper took out of the table. -/
def takenByReaper (removed : List (Job × Remover)) : List Job :=
  removed.filterMap fun x => if x.2 = .reaper then some x.1 else none

/-- What the record of a run says; `taken` are the jobs that the reaper has removed and not yet answered. -/
structure Recorded (limits : Limits) (jobs : List Job) (finished : List (Evaluation × Except Failure Flow))
    (reaped : List (Except Failure (List Job))) (removed : List (Job × Remover)) (taken : List Job) : Prop where
  lines : ∀ job line, (job, Remover.line line) ∈ removed → Addresses limits line job.id
  reaped : ∃ found : List (List Job), reaped = found.map .ok ∧ found.flatten ++ taken = takenByReaper removed
  launched : ∀ e r p leader, (e, r) ∈ finished → Launched limits e p leader →
    ∃ job ∈ removed.map Prod.fst ++ jobs, job.pid = leader ∧ job.text = p.text ∧ e.forked.head? = some job.group
  lost : ∀ e r id, (e, r) ∈ finished → Addresses limits e.line id → e.lost ≠ [] → r = .ok .proceed

/-- Both threads keep to their contracts, and what they know is so. -/
structure Sound (limits : Limits) (s : System) (k : Sight) (g : Reaping) : Prop where
  same : s.shell.limits = limits
  books : Books s.toShared (s.removed.map Prod.fst)
  knows : Knows s.toShared (s.removed.map Prod.fst) k
  owing : Owing s.toShared k g
  evaluating : match s.interpreter with
    | none => k = .begun []
    | some (e, p) => k.record = e ∧ p.Ensures (interpreter limits)
        (fun r k => r.2.limits = limits ∧ Done limits r.1 k) k
  reaping : match s.reaper with
    | none => g = .begun
    | some p => p.Ensures reaper (fun r g => g.held = none ∧ g.owed = none ∧ r = .ok g.taken) g
  recorded : Recorded limits s.table.jobs s.finished s.reaped s.removed g.taken

variable {limits : Limits} {s s' : System} {k k' : Sight} {g g' : Reaping}

theorem sound_start (shell : Shell) : Sound shell.limits (.start shell) (.begun []) .begun where
  same := rfl
  books := ⟨fun _ h => absurd rfl h, .nil, by simp [System.start, JobTable.empty], .nil, by simp [System.start, JobTable.empty],
    by simp [System.start]⟩
  knows := by
    refine ⟨rfl, ?_, ?_, ?_, ?_, ?_, ?_, ?_⟩ <;> simp [Sight.begun, Sight.Own]
  owing := by
    refine ⟨rfl, ?_, ?_, ?_⟩ <;> simp [Reaping.begun, System.start, JobTable.empty, Sight.begun]
  evaluating := rfl
  reaping := rfl
  recorded := ⟨by simp [System.start], ⟨[], rfl, rfl⟩, by simp [System.start], by simp [System.start]⟩

/-! ### The record -/

theorem map_fst_append (removed : List (Job × Remover)) (jobs : List Job) (remover : Remover) :
    (removed ++ jobs.map (·, remover)).map Prod.fst = removed.map Prod.fst ++ jobs := by
  simp [Function.comp_def]

theorem takenByReaper_append (removed : List (Job × Remover)) (jobs : List Job) (remover : Remover) :
    takenByReaper (removed ++ jobs.map (·, remover)) =
      takenByReaper removed ++ if remover = .reaper then jobs else [] := by
  rw [takenByReaper, List.filterMap_append, List.filterMap_map]
  split <;> simp [takenByReaper, *]

section Record
variable {jobs jobs' gone taken : List Job} {finished : List (Evaluation × Except Failure Flow)}
variable {reaped : List (Except Failure (List Job))} {removed : List (Job × Remover)}

/-- Jobs are removed in a step, and none is lost otherwise. -/
theorem Recorded.removes (remover : Remover) (h : Recorded limits jobs finished reaped removed taken)
    (hlines : ∀ line, remover = .line line → ∀ job ∈ gone, Addresses limits line job.id)
    (hkeep : ∀ job ∈ removed.map Prod.fst ++ jobs, job ∈ removed.map Prod.fst ++ gone ++ jobs') :
    Recorded limits jobs' finished reaped (removed ++ gone.map (·, remover))
      (taken ++ if remover = .reaper then gone else []) := by
  refine ⟨fun job line hj => ?_, ?_, fun e r p leader he hl => ?_, h.lost⟩
  · rcases List.mem_append.mp hj with hj | hj
    · exact h.lines job line hj
    · obtain ⟨job', hj', heq⟩ := List.mem_map.mp hj
      cases heq
      exact hlines line rfl job hj'
  · obtain ⟨found, hf, ht⟩ := h.reaped
    refine ⟨found, hf, ?_⟩
    rw [takenByReaper_append, ← List.append_assoc, ht]
  · obtain ⟨job, hj, hjob⟩ := h.launched e r p leader he hl
    rw [map_fst_append]
    exact ⟨job, hkeep job hj, hjob⟩

theorem Recorded.finish {e : Evaluation} {r : Except Failure Flow}
    (h : Recorded limits jobs finished reaped removed taken)
    (hk : ∀ job ∈ k.added, job ∈ removed.map Prod.fst ++ jobs) (he : k.record = e) (hd : Done limits r k) :
    Recorded limits jobs (finished ++ [(e, r)]) reaped removed taken := by
  subst he
  refine ⟨h.lines, h.reaped, fun e' r' p leader hmem hl => ?_, fun e' r' id hmem ha => ?_⟩
  · rcases List.mem_append.mp hmem with hmem | hmem
    · exact h.launched e' r' p leader hmem hl
    · cases List.mem_singleton.mp hmem
      obtain ⟨job, hj, hjob⟩ := hd.launched p leader hl
      exact ⟨job, hk job hj, hjob⟩
  · rcases List.mem_append.mp hmem with hmem | hmem
    · exact h.lost e' r' id hmem ha
    · cases List.mem_singleton.mp hmem
      exact hd.lost id ha

theorem Recorded.report (h : Recorded limits jobs finished reaped removed taken) :
    Recorded limits jobs finished (reaped ++ [.ok taken]) removed [] := by
  obtain ⟨found, hf, ht⟩ := h.reaped
  refine ⟨h.lines, ⟨found ++ [taken], ?_, ?_⟩, h.launched, h.lost⟩
  · rw [hf, List.map_append]
    rfl
  · rw [← ht, List.flatten_append]
    simp

end Record

theorem missing_of_subset {t t' : JobTable} (h : ∀ job ∈ t.jobs, job ∈ t'.jobs) : missing t (.releaseJobs t') = [] :=
  List.filter_eq_nil_iff.mpr fun job hj => by simpa using h job hj

theorem missing_remove {pid : Pid} {removed : List Job} {s : Shared} (h : Books s removed) :
    missing s.table (.releaseJobs (s.table.remove pid).2) = (s.table.remove pid).1.toList := by
  have hids := h.ids
  rw [List.map_append] at hids
  exact JobTable.filter_notMem_remove (List.Nodup.of_map Job.id (List.Nodup.of_append_right hids))

/-! ### The interpreter goes on -/

/-- What the interpreter waits for is a child. -/
theorem Knows.born {s : Shared} {removed : List Job} {pid : Pid} (h : Knows s removed k) (hk : k.Known pid) :
    s.Born pid := by
  rcases hk with hk | ⟨job, hj, rfl⟩
  · exact h.forked pid hk
  · exact (h.seen job hj).1

theorem Sound.goesOn {h : Shared} {e : Evaluation} {p : Prog (Except Failure Flow × Shell)} {jobs : List Job}
    {line : Text} (hs : Sound limits s k g) (hbooks : Books h (s.removed.map Prod.fst ++ jobs))
    (hknows : Knows h (s.removed.map Prod.fst ++ jobs) k') (howing : Owing h k' g) (hrecord : k'.record = e)
    (hp : p.Ensures (interpreter limits) (fun r k => r.2.limits = limits ∧ Done limits r.1 k) k')
    (hlines : ∀ job ∈ jobs, Addresses limits line job.id)
    (hkeep : ∀ job ∈ s.removed.map Prod.fst ++ s.table.jobs, job ∈ s.removed.map Prod.fst ++ jobs ++ h.table.jobs) :
    Sound limits { s with
      toShared := h
      interpreter := some (e, p)
      removed := s.removed ++ jobs.map (·, .line line) } k' g where
  same := hs.same
  books := by rwa [map_fst_append]
  knows := by rwa [map_fst_append]
  owing := howing
  evaluating := ⟨hrecord, hp⟩
  reaping := hs.reaping
  recorded := by
    have hrecorded := hs.recorded.removes (.line line) (fun _ hl => by cases hl; exact hlines) hkeep
    rwa [if_neg (by simp), List.append_nil] at hrecorded

/-- The interpreter goes on, and no job is removed. -/
theorem Sound.goesOnQuietly {h : Shared} {e : Evaluation} {p : Prog (Except Failure Flow × Shell)} {line : Text}
    (hs : Sound limits s k g) (hbooks : Books h (s.removed.map Prod.fst))
    (hknows : Knows h (s.removed.map Prod.fst) k') (howing : Owing h k' g) (hrecord : k'.record = e)
    (hp : p.Ensures (interpreter limits) (fun r k => r.2.limits = limits ∧ Done limits r.1 k) k')
    (hkeep : ∀ job ∈ s.table.jobs, job ∈ h.table.jobs) :
    Sound limits { s with
      toShared := h
      interpreter := some (e, p)
      removed := s.removed ++ ([] : List Job).map (·, .line line) } k' g :=
  hs.goesOn (by rwa [List.append_nil]) (by rwa [List.append_nil]) howing hrecord hp
    (fun _ hj => absurd hj List.not_mem_nil) fun job hj => by
      rw [List.append_nil]
      exact (List.mem_append.mp hj).elim (List.mem_append_left _) fun h => List.mem_append_right _ (hkeep job h)

/-- A wait for a child is about this child. -/
theorem eq_of_awaits {s : Shared} {removed : List Job} {target pid : Pid} (hb : Books s removed)
    (h : Knows s removed k) (hk : k.Known target) (ha : Awaits target pid) : pid = target := by
  rcases ha with rfl | rfl
  · exact absurd (hb.positive _ (h.born hk)) (by decide)
  · rfl

/-- The interpreter collects a child. -/
theorem Sound.collects {target : Pid} {x : Status} {p : Prog (Except Failure Flow × Shell)} {line : Text}
    (hs : Sound limits s k g) (hk : k.Known target) (hx : s.fates target = .ended x)
    (hp : p.Ensures (interpreter limits) (fun r k => r.2.limits = limits ∧ Done limits r.1 k) (k.waits [] [target])) :
    Sound limits { s with
      toShared := s.become target .collected
      interpreter := some (k.record, p)
      removed := s.removed ++ ([] : List Job).map (·, .line line) } (k.waits [] [target]) g := by
  have hne : s.fates target ≠ .collected := by rw [hx]; simp
  have hon : Onward s.toShared (s.become target .collected) := onward_become (by simp) hne
  refine hs.goesOnQuietly (hs.books.become (by simp) hne (hs.books.positive target (hs.knows.born hk))) ?_ ?_ ?_ hp
    fun _ hj => hj
  · refine (hs.knows.onward hon).waits fun pid hpid => ?_
    rw [List.mem_singleton.mp hpid]
    exact fates_become
  · exact hs.owing.waits hon fun pid hc => (fates_become_eq_collected hc).imp_right And.left
  · simp [Sight.waits]

/-- The interpreter gives the table back. -/
theorem Sound.givesBack {t' : JobTable} {p : Prog (Except Failure Flow × Shell)} (hs : Sound limits s k g)
    (hholder : s.holder = some .interpreter) (hheld : k.held = some s.table)
    (hgives : GivesBack limits k s.table t' k')
    (hp : p.Ensures (interpreter limits) (fun r k => r.2.limits = limits ∧ Done limits r.1 k) k') :
    Sound limits { s with
      toShared := { s.toShared with table := t', holder := none }
      interpreter := some (k.record, p)
      removed := s.removed ++ (missing s.table (.releaseJobs t')).map (·, .line k.record.line) } k' g := by
  cases hgives with
  | same =>
    rw [missing_of_subset fun _ hj => hj]
    exact hs.goesOnQuietly (hs.books.holder none) hs.knows.gives (hs.owing.fewer hholder (fun _ hj => hj) rfl rfl) rfl hp
      fun _ hj => hj
  | @removes job hseen hgone haddress =>
    rw [missing_remove hs.books]
    refine hs.goesOn (hs.books.removes (hs.knows.gone _ hgone)) (hs.knows.drops hs.books hseen)
      (hs.owing.fewer hholder (fun _ => JobTable.mem_of_mem_remove) rfl rfl) rfl hp (fun job' hj => ?_)
      fun _ => mem_remove job.pid
    -- The job that is removed is the one that was found.
    obtain ⟨hj, hpid⟩ := JobTable.mem_of_remove_eq_some (Option.mem_toList.mp hj)
    rw [(hs.knows.seen job hseen).2 job' hj hpid]
    exact haddress
  | @adds leader group text hfresh =>
    have hown := hs.knows.fresh leader hfresh
    have habsent := (hs.knows.own leader hown).2
    have hkeep : ∀ job ∈ s.table.jobs, job ∈ (s.table.add leader group text).2.jobs := fun job hj => by
      rw [JobTable.add_of_absent habsent]
      exact List.mem_cons_of_mem _ hj
    rw [missing_of_subset hkeep]
    have hsome : k.held.isSome := by rw [hheld]; rfl
    exact hs.goesOnQuietly (hs.books.adds (hs.knows.forked leader hown.1) habsent) (hs.knows.adds hown)
      (hs.owing.adds hholder hsome hfresh habsent) rfl hp hkeep

theorem sound_evaluate {e : Evaluation} {c : Call} {next : c.Reply → Prog (Except Failure Flow × Shell)}
    {r : c.Reply} {h : Shared} (hs : Sound limits s k g) (hi : s.interpreter = some (e, .call c next))
    (ha : Answer .interpreter c s.toShared r h) : ∃ k', Sound limits { s with
      toShared := h
      interpreter := some (e.note c r, next r)
      removed := s.removed ++ (missing s.table c).map (·, .line e.line) } k' g := by
  have hwork := hs.evaluating
  rw [hi] at hwork
  obtain ⟨rfl, hp⟩ := hwork
  cases c with
  | fork =>
    cases r with
    | error e =>
      obtain rfl := ha
      exact ⟨k, hs.goesOnQuietly hs.books hs.knows hs.owing rfl (hp.2 e) fun _ hj => hj⟩
    | ok forked =>
      cases forked with
      | child => exact ha.elim
      | parent pid =>
        obtain ⟨hpos, hunborn, rfl⟩ := ha
        have hne : s.fates pid ≠ .collected := by rw [hunborn]; simp
        exact ⟨k.forks [pid], hs.goesOnQuietly (hs.books.become (by simp) hne hpos)
          (hs.knows.forks hs.books hunborn) (hs.owing.forks hne) rfl (hp.1 pid) fun _ hj => hj⟩
  | wait target block =>
    obtain ⟨hk, hblock, hreport, hlost, hagain⟩ := hp
    cases r with
    | ok report =>
      cases report with
      | alive => cases hblock.symm.trans ha.1
      | exited pid code =>
        obtain ⟨haw, hended, rfl⟩ := ha
        obtain rfl := eq_of_awaits hs.books hs.knows hk haw
        exact ⟨_, hs.collects hk hended (hreport _ rfl)⟩
      | signaled pid n core =>
        obtain ⟨haw, x, hx, hended, rfl⟩ := ha
        obtain rfl := eq_of_awaits hs.books hs.knows hk haw
        exact ⟨_, hs.collects hk hended (hreport _ ⟨rfl, x, hx⟩)⟩
      | _ => exact ha.elim
    | error e =>
      obtain ⟨rfl, rfl | ⟨rfl, hno⟩⟩ := ha
      · exact ⟨k, hs.goesOnQuietly hs.books hs.knows hs.owing rfl hagain fun _ hj => hj⟩
      · have hc : s.fates target = .collected := (hno target (.inr rfl)).resolve_left (hs.knows.born hk)
        refine ⟨k.waits [target] [target], hs.goesOnQuietly hs.books ?_ ?_ rfl hlost fun _ hj => hj⟩
        · exact hs.knows.waits fun pid hpid => by rw [List.mem_singleton.mp hpid, hc]
        · exact hs.owing.waits (.refl s.toShared) fun pid hc => .inl hc
  | acquireJobs =>
    obtain ⟨hfree, rfl, rfl⟩ := ha
    exact ⟨k.takes s.table, hs.goesOnQuietly (hs.books.holder _) (hs.knows.takes hs.books) (hs.owing.takes hfree) rfl
      (hp.2 s.table) fun _ hj => hj⟩
  | releaseJobs t' =>
    obtain ⟨hholder, rfl⟩ := ha
    obtain ⟨t, k', hheld, hgives, hp⟩ := hp
    obtain rfl : s.table = t := by
      rw [hs.knows.held, Shared.heldBy, if_pos hholder] at hheld
      exact Option.some.inj hheld
    exact ⟨k', hs.givesBack hholder hheld hgives hp⟩
  | _ =>
    obtain rfl := ha
    exact ⟨k, hs.goesOnQuietly hs.books hs.knows hs.owing rfl (hp _) fun _ hj => hj⟩

/-! ### The reaper goes on -/

theorem Sound.reapsOn {h : Shared} {p : Prog (Except Failure (List Job))} {jobs : List Job}
    (hs : Sound limits s k g) (hbooks : Books h (s.removed.map Prod.fst ++ jobs))
    (hknows : Knows h (s.removed.map Prod.fst ++ jobs) k) (howing : Owing h k g')
    (hp : p.Ensures reaper (fun r g => g.held = none ∧ g.owed = none ∧ r = .ok g.taken) g')
    (htaken : g'.taken = g.taken ++ jobs)
    (hkeep : ∀ job ∈ s.removed.map Prod.fst ++ s.table.jobs, job ∈ s.removed.map Prod.fst ++ jobs ++ h.table.jobs) :
    Sound limits { s with
      toShared := h
      reaper := some p
      removed := s.removed ++ jobs.map (·, .reaper) } k g' where
  same := hs.same
  books := by rwa [map_fst_append]
  knows := by rwa [map_fst_append]
  owing := howing
  evaluating := hs.evaluating
  reaping := hp
  recorded := by
    have hrecorded := hs.recorded.removes .reaper (fun _ hl => by cases hl) hkeep
    rwa [if_pos rfl, ← htaken] at hrecorded

theorem Sound.reapsOnQuietly {h : Shared} {p : Prog (Except Failure (List Job))} (hs : Sound limits s k g)
    (hbooks : Books h (s.removed.map Prod.fst)) (hknows : Knows h (s.removed.map Prod.fst) k) (howing : Owing h k g')
    (hp : p.Ensures reaper (fun r g => g.held = none ∧ g.owed = none ∧ r = .ok g.taken) g')
    (htaken : g'.taken = g.taken) (htable : h.table = s.table) :
    Sound limits { s with
      toShared := h
      reaper := some p
      removed := s.removed ++ ([] : List Job).map (·, .reaper) } k g' :=
  hs.reapsOn (by rwa [List.append_nil]) (by rwa [List.append_nil]) howing hp (by rwa [List.append_nil])
    fun job hj => by rwa [List.append_nil, htable]

/-- The reaper collects a child, and owes its removal from then on. -/
theorem Sound.reaperCollects {pid : Pid} {x : Status} {p : Prog (Except Failure (List Job))} (hs : Sound limits s k g)
    (howed : g.owed = none) (hx : s.fates pid = .ended x)
    (hp : p.Ensures reaper (fun r g => g.held = none ∧ g.owed = none ∧ r = .ok g.taken) (g.collects pid)) :
    Sound limits { s with
      toShared := s.become pid .collected
      reaper := some p
      removed := s.removed ++ ([] : List Job).map (·, .reaper) } k (g.collects pid) := by
  have hne : s.fates pid ≠ .collected := by rw [hx]; simp
  have hpos : 0 < pid := hs.books.positive pid (by rw [Shared.Born, hx]; simp)
  exact hs.reapsOnQuietly (hs.books.become (by simp) hne hpos) (hs.knows.onward (onward_become (by simp) hne))
    (hs.owing.collects hne howed) hp rfl rfl

theorem sound_reap {c : Call} {next : c.Reply → Prog (Except Failure (List Job))} {r : c.Reply} {h : Shared}
    (hs : Sound limits s k g) (hr : s.reaper = some (.call c next)) (ha : Answer .reaper c s.toShared r h) :
    ∃ g', Sound limits { s with
      toShared := h
      reaper := some (next r)
      removed := s.removed ++ (missing s.table c).map (·, .reaper) } k g' := by
  have hp := hs.reaping
  rw [hr] at hp
  cases c with
  | wait target block =>
    obtain ⟨-, hheld, howed, hreport, halive, hnone, hagain⟩ := hp
    cases r with
    | ok report =>
      cases report with
      | alive =>
        obtain ⟨-, -, -, rfl⟩ := ha
        exact ⟨g, hs.reapsOnQuietly hs.books hs.knows hs.owing halive rfl rfl⟩
      | exited pid code =>
        obtain ⟨-, hended, rfl⟩ := ha
        exact ⟨_, hs.reaperCollects howed hended (hreport (.exited pid code) pid rfl)⟩
      | signaled pid n core =>
        obtain ⟨-, x, hx, hended, rfl⟩ := ha
        exact ⟨_, hs.reaperCollects howed hended (hreport (.signaled pid n core) pid ⟨rfl, x, hx⟩)⟩
      | _ => exact ha.elim
    | error e =>
      obtain ⟨rfl, rfl | ⟨rfl, -⟩⟩ := ha
      · exact ⟨g, hs.reapsOnQuietly hs.books hs.knows hs.owing hagain rfl rfl⟩
      · exact ⟨g, hs.reapsOnQuietly hs.books hs.knows hs.owing hnone rfl rfl⟩
  | acquireJobs =>
    obtain ⟨hfree, rfl, rfl⟩ := ha
    have hk : k.held = none := hs.knows.held_eq_none (by rw [hfree]; simp)
    exact ⟨g.takes s.table, hs.reapsOnQuietly (hs.books.holder _) (hs.knows.reaperTakes hfree)
      (hs.owing.reaperTakes hk) (hp.2 s.table) rfl rfl⟩
  | releaseJobs t' =>
    obtain ⟨hholder, rfl⟩ := ha
    obtain ⟨t, pid, hheld, howed, rfl, hp⟩ := hp
    obtain rfl : s.table = t := by
      rw [hs.owing.held, Shared.heldBy, if_pos hholder] at hheld
      exact Option.some.inj hheld
    have hk : k.held = none := hs.knows.held_eq_none (by rw [hholder]; simp)
    rw [missing_remove hs.books]
    exact ⟨g.drops _, hs.reapsOn (hs.books.removes (hs.owing.owed pid howed)) (hs.knows.reaperDrops hk)
      (hs.owing.reaperDrops hs.books hk howed) hp rfl fun _ => mem_remove pid⟩
  | _ => exact hp.elim

/-! ### Runs -/

/-- The line that is evaluated next is known to nobody yet. -/
theorem Knows.begun {s : Shared} {removed : List Job} {line line' : Text} (h : Knows s removed (.begun line)) :
    Knows s removed (.begun line') :=
  ⟨h.held, h.forked, h.fresh, h.own, h.seen, h.gone, h.dropped, h.added⟩

theorem Owing.begun {s : Shared} {line line' : Text} (h : Owing s (.begun line) g) : Owing s (.begun line') g :=
  ⟨h.held, h.owed, h.table, h.fresh⟩

/-- An evaluation that is settled leaves nothing to be known. -/
theorem Knows.settled {s : Shared} {removed : List Job} (h : Knows s removed k) (hk : Settled k) :
    Knows s removed (.begun []) where
  held := hk.held.symm.trans h.held
  forked _ hpid := absurd hpid List.not_mem_nil
  fresh _ hpid := absurd hpid List.not_mem_nil
  own _ hpid := absurd hpid.1 List.not_mem_nil
  seen _ hj := absurd hj List.not_mem_nil
  gone _ hpid := absurd hpid List.not_mem_nil
  dropped _ hpid := absurd hpid List.not_mem_nil
  added _ hj := absurd hj List.not_mem_nil

/-- What an evaluation that is settled still knows to be collected leads no job. -/
theorem Owing.settled {s : Shared} {removed : List Job} (h : Owing s k g) (hk : Knows s removed k) (hs : Settled k) :
    Owing s (.begun []) g := by
  refine ⟨h.held, h.owed, fun job hj hc => (h.table job hj hc).elim (fun hgone => ?_) .inr, fun hsome => ?_⟩
  · rcases hs.gone _ hgone with hdropped | hown
    · exact absurd rfl ((hk.dropped _ hdropped).2 job hj)
    · exact absurd rfl ((hk.own _ hown).2 job hj)
  · cases hsome

theorem Owing.reported {s : Shared} (h : Owing s k g) (hheld : g.held = none) (howed : g.owed = none) :
    Owing s k .begun := by
  refine ⟨hheld.symm.trans h.held, fun pid hpid => ?_, fun job hj hc => ?_, fun hsome pid hpid hc => ?_⟩
  · cases hpid
  · have ho := h.table job hj hc
    rwa [howed] at ho
  · have ho := h.fresh hsome pid hpid hc
    rwa [howed] at ho

theorem sound_step (hs : Sound limits s k g) (h : System.Step s s') : ∃ k' g', Sound limits s' k' g' := by
  cases h with
  | @ends pid status hp =>
    have hne : s.fates pid ≠ .collected := by rw [hp]; simp
    have hpos : 0 < pid := hs.books.positive pid (by rw [Shared.Born, hp]; simp)
    exact ⟨k, g, hs.same, hs.books.become (by simp) hne hpos, hs.knows.onward (onward_become (by simp) hne),
      hs.owing.ends (by simp) (by simp) hne, hs.evaluating, hs.reaping, hs.recorded⟩
  | @enter line hi =>
    have hwork := hs.evaluating
    rw [hi] at hwork
    subst hwork
    -- The shell is between two lines, and its limits are those that it was started with.
    refine ⟨.begun line, g, hs.same, hs.books, hs.knows.begun, hs.owing.begun, ⟨rfl, ?_⟩, hs.reaping, hs.recorded⟩
    rw [← hs.same]
    exact ensures_eval s.shell line
  | evaluate hi ha =>
    obtain ⟨k', hs'⟩ := sound_evaluate hs hi ha
    exact ⟨k', g, hs'⟩
  | repeatLine hi =>
    have hwork := hs.evaluating
    rw [hi] at hwork
    exact ⟨k, g, hs.same, hs.books, hs.knows, hs.owing, ⟨hwork.1, hwork.2.unroll⟩, hs.reaping, hs.recorded⟩
  | finish hi =>
    have hwork := hs.evaluating
    rw [hi] at hwork
    obtain ⟨he, hsame, hdone⟩ := hwork
    -- What the evaluation still knew of is settled, so that it can be forgotten.
    exact ⟨.begun [], g, hsame, hs.books, hs.knows.settled hdone.settled, hs.owing.settled hs.knows hdone.settled, rfl,
      hs.reaping, hs.recorded.finish hs.knows.added he hdone⟩
  | notice hr =>
    have hwork := hs.reaping
    rw [hr] at hwork
    subst hwork
    exact ⟨k, .begun, hs.same, hs.books, hs.knows, hs.owing, hs.evaluating, ensures_reap, hs.recorded⟩
  | reap hr ha =>
    obtain ⟨g', hs'⟩ := sound_reap hs hr ha
    exact ⟨k, g', hs'⟩
  | repeatReap hr =>
    have hwork := hs.reaping
    rw [hr] at hwork
    exact ⟨k, g, hs.same, hs.books, hs.knows, hs.owing, hs.evaluating, hwork.unroll, hs.recorded⟩
  | @report result hr =>
    have hwork := hs.reaping
    rw [hr] at hwork
    obtain ⟨hheld, howed, rfl⟩ := hwork
    exact ⟨k, .begun, hs.same, hs.books, hs.knows, hs.owing.reported hheld howed, hs.evaluating, rfl,
      hs.recorded.report⟩

theorem sound_reaches {shell : Shell} (h : System.Reaches (.start shell) s) : ∃ k g, Sound shell.limits s k g := by
  induction h with
  | refl => exact ⟨_, _, sound_start shell⟩
  | tail _ h ih =>
    obtain ⟨k, g, hs⟩ := ih
    exact sound_step hs h

/-- Whatever the order of the steps: when both threads are between two pieces of work, the job of a launched pipeline
is in the table if and only if its leader has not been collected. No job is removed twice; one that a line removes is
the one that this line addresses, the others are removed by the reaper, which answers them. And a line that addresses a
job and loses its leader to the reaper ends well. -/
theorem jobs_accounted {shell : Shell} (h : System.Reaches (.start shell) s) :
    (s.interpreter = none → s.reaper = none → ∀ e r p leader, (e, r) ∈ s.finished → Launched shell.limits e p leader →
      ∃ job : Job, job.pid = leader ∧ job.text = p.text ∧ e.forked.head? = some job.group ∧
        (job ∈ s.table.jobs ↔ s.fates leader ≠ .collected) ∧
        ∀ other ∈ s.table.jobs, other.pid = leader → other = job) ∧
    ((s.removed.map Prod.fst ++ s.table.jobs).map Job.id).Nodup ∧
    (∀ job line, (job, .line line) ∈ s.removed → Addresses shell.limits line job.id) ∧
    (s.reaper = none →
      ∃ found : List (List Job), s.reaped = found.map .ok ∧ found.flatten = takenByReaper s.removed) ∧
    ∀ e r id, (e, r) ∈ s.finished → Addresses shell.limits e.line id → e.lost ≠ [] → r = .ok .proceed := by
  obtain ⟨k, g, hs⟩ := sound_reaches h
  refine ⟨fun hi hr e r p leader he hl => ?_, hs.books.ids, hs.recorded.lines, fun hr => ?_, hs.recorded.lost⟩
  · have hwork := hs.evaluating
    rw [hi] at hwork
    subst hwork
    have hreap := hs.reaping
    rw [hr] at hreap
    subst hreap
    -- Neither thread owes anything.
    have running : ∀ job ∈ s.table.jobs, s.fates job.pid ≠ .collected := fun job hj hc =>
      (hs.owing.table job hj hc).elim List.not_mem_nil fun h => by cases h
    obtain ⟨job, hj, rfl, htext, hgroup⟩ := hs.recorded.launched e r p leader he hl
    refine ⟨job, rfl, htext, hgroup, ⟨running job, fun hc => ?_⟩, fun other hother hpid => ?_⟩
    · exact (List.mem_append.mp hj).resolve_left fun hj => hc (hs.books.collected job hj)
    · rcases List.mem_append.mp hj with hj | hj
      · refine absurd (hs.books.collected job hj) ?_
        rw [← hpid]
        exact running other hother
      · exact List.inj_on_of_nodup_map hs.books.pids hother hj hpid
  · have hreap := hs.reaping
    rw [hr] at hreap
    subst hreap
    obtain ⟨found, hf, ht⟩ := hs.recorded.reaped
    exact ⟨found, hf, by rw [← ht]; exact (List.append_nil _).symm⟩

/-! ### A leader that is lost -/

section Lost
variable {f f' : Pid → Fate} {t t' : JobTable} {o o' : Option Thread} {shell : Shell} {e : Evaluation}
variable {i : Option (Evaluation × Prog (Except Failure Flow × Shell))} {p : Option (Prog (Except Failure (List Job)))}
variable {finished : List (Evaluation × Except Failure Flow)} {reaped : List (Except Failure (List Job))}
variable {removed : List (Job × Remover)}

theorem step_line (c : Call) {next : c.Reply → Prog (Except Failure Flow × Shell)} (r : c.Reply)
    (ha : Answer .interpreter c ⟨f, t, o⟩ r ⟨f', t', o'⟩) :
    System.Step ⟨⟨f, t, o⟩, shell, some (e, .call c next), p, finished, reaped, removed⟩
      ⟨⟨f', t', o'⟩, shell, some (e.note c r, next r), p, finished, reaped,
        removed ++ (missing t c).map (·, .line e.line)⟩ :=
  .evaluate rfl ha

theorem step_reap (c : Call) {next : c.Reply → Prog (Except Failure (List Job))} (r : c.Reply)
    (ha : Answer .reaper c ⟨f, t, o⟩ r ⟨f', t', o'⟩) :
    System.Step ⟨⟨f, t, o⟩, shell, i, some (.call c next), finished, reaped, removed⟩
      ⟨⟨f', t', o'⟩, shell, i, some (next r), finished, reaped, removed ++ (missing t c).map (·, .reaper)⟩ :=
  .reap rfl ha

def onlyShell : Shell := { limits := {} }

def backgroundLine : Text := ['a', ' ', '&']

def foregroundLine : Text := ['f', 'g', ' ', '1']

def firstJob : Job := ⟨1, 71, 71, ['a']⟩

/-- The reaper collects the leader of a job, and before it removes the job, a line asks for the job and removes it. -/
theorem reaches_lostLeader : ∃ s, System.Reaches (.start onlyShell) s ∧ s.interpreter = none ∧ s.reaper = none ∧
    s.removed = [(firstJob, .line foregroundLine)] ∧
    s.finished = [(⟨backgroundLine, [71], []⟩, .ok .proceed), (⟨foregroundLine, [], [71]⟩, .ok .proceed)] := by
  have h : System.Reaches (.start onlyShell) (.start onlyShell) := .refl
  replace h := h.tail (.enter backgroundLine rfl)
  replace h := h.tail (step_line .acquireJobs JobTable.empty ⟨rfl, rfl, rfl⟩)
  replace h := h.tail (step_line .fork (.ok (.parent 71) : Except Errno Forked) ⟨by decide, rfl, rfl⟩)
  replace h := h.tail (step_line (.setGroup 71 71) (.ok () : Except Errno Unit) rfl)
  replace h := h.tail (step_line (.releaseJobs ⟨[firstJob], 1⟩) () ⟨rfl, rfl⟩)
  replace h := h.tail (step_line (.print _) (.ok () : Except Errno Unit) rfl)
  replace h := h.tail (.finish rfl)
  replace h := h.tail (@System.Step.ends _ 71 (.exited 0) rfl)
  replace h := h.tail (.notice rfl)
  replace h := h.tail (.repeatReap rfl)
  replace h := h.tail (step_reap (.wait (-1) false) (.ok (.exited 71 0) : Except Errno Report) ⟨.inl rfl, rfl, rfl⟩)
  replace h := h.tail (.enter foregroundLine rfl)
  replace h := h.tail (step_line .acquireJobs ⟨[firstJob], 1⟩ ⟨rfl, rfl, rfl⟩)
  replace h := h.tail (step_line (.releaseJobs ⟨[firstJob], 1⟩) () ⟨rfl, rfl⟩)
  replace h := h.tail (step_line (.print _) (.ok () : Except Errno Unit) rfl)
  replace h := h.tail (step_line (.isTerminal 0) false rfl)
  replace h := h.tail (step_line (.killGroup 71 18) (.error .noProcess : Except Errno Unit) rfl)
  replace h := h.tail (.repeatLine rfl)
  replace h := h.tail (step_line (.wait 71 true) (.error .noChild : Except Errno Report)
    ⟨rfl, .inr ⟨rfl, fun pid hpid => by obtain rfl := hpid.resolve_left (by decide); exact .inr rfl⟩⟩)
  replace h := h.tail (step_line .acquireJobs ⟨[firstJob], 1⟩ ⟨rfl, rfl, rfl⟩)
  replace h := h.tail (step_line (.releaseJobs ⟨[], 1⟩) () ⟨rfl, rfl⟩)
  replace h := h.tail (.finish rfl)
  replace h := h.tail (step_reap .acquireJobs ⟨[], 1⟩ ⟨rfl, rfl, rfl⟩)
  replace h := h.tail (step_reap (.releaseJobs ⟨[], 1⟩) () ⟨rfl, rfl⟩)
  replace h := h.tail (.repeatReap rfl)
  replace h := h.tail (step_reap (.wait (-1) false) (.error .noChild : Except Errno Report)
    ⟨rfl, .inr ⟨rfl, fun pid _ => by
      by_cases hpid : pid = 71
      · exact .inr (by rw [hpid]; rfl)
      · exact .inl (by simp [Function.update_of_ne hpid])⟩⟩)
  replace h := h.tail (.report rfl)
  exact ⟨_, h, rfl, rfl, rfl, rfl⟩

theorem jobs_accounted_lostLeader : ∃ s, System.Reaches (.start onlyShell) s ∧ s.interpreter = none ∧
    s.reaper = none ∧ s.removed = [(firstJob, .line foregroundLine)] ∧
    Addresses onlyShell.limits foregroundLine firstJob.id ∧
    (∃ job : Job, job.pid = 71 ∧ job.text = ['a'] ∧ (job ∈ s.table.jobs ↔ s.fates 71 ≠ .collected)) ∧
    ∃ found : List (List Job), s.reaped = found.map .ok ∧ found.flatten = [] := by
  obtain ⟨s, h, hi, hr, hremoved, hfinished⟩ := reaches_lostLeader
  obtain ⟨hjobs, -, hlines, hreaped, -⟩ := jobs_accounted h
  have hlaunched : Launched onlyShell.limits ⟨backgroundLine, [71], []⟩
      ⟨[⟨[['a']], none, none, by simp⟩], true⟩ 71 := ⟨rfl, rfl, rfl, rfl, rfl⟩
  obtain ⟨job, hpid, htext, -, hlisted, -⟩ := hjobs hi hr _ _ _ _ (by rw [hfinished]; exact List.mem_cons_self) hlaunched
  obtain ⟨found, hf, ht⟩ := hreaped hr
  refine ⟨s, h, hi, hr, hremoved, ?_, ⟨job, hpid, htext, hlisted⟩, found, hf, ?_⟩
  · exact hlines firstJob foregroundLine (by rw [hremoved]; exact List.mem_cons_self)
  · rw [ht, hremoved]
    rfl

end Lost

end JobShell.Threads
