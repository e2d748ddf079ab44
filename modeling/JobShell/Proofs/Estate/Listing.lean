import JobShell.Proofs.Estate.Tables

/-! # Listing the jobs

What `jobs` writes is the listing of the job table at one moment. Nothing else happens, so that the next `jobs` writes
the same again unless the reaper has removed a job in the meantime. -/

namespace JobShell.Estate
open JobTable (listing readListing)

variable {reaper : Prop} {s s' s₁ : State} {k k' : State × List Noted} {shell : Shell} {line : Text}

/-! ### The output is of no account -/

theorem Drift.write (h : Drift reaper s s') (output : Text) :
    Drift reaper { s with output } { s' with output } := by
  cases h with
  | ends e hp => exact .ends (s := { s with output }) e hp
  | calms h =>
    obtain ⟨n, hn, rfl⟩ := h
    exact .calms ⟨n, hn, rfl⟩
  | reaps hr hp => exact .reaps (s := { s with output }) hr hp
  | removes pid hr hh => exact .removes (s := { s with output }) pid hr hh

theorem drifts_write (h : (world reaper).Drifts s s') (output : Text) :
    (world reaper).Drifts { s with output } { s' with output } := by
  induction h with
  | refl => exact .refl
  | tail _ hd ih => exact ih.tail (hd.write output)

/-! ### Writing the lines -/

/-- The text is written, and nothing else happens. If the output is refused, a part of the text may be missing. -/
structure Wrote (reaper : Prop) (text : Text) (k : State × List Noted) (r : Except Failure Unit)
    (k' : State × List Noted) : Prop where
  rest : (world reaper).Drifts k.1 { k'.1 with output := k.1.output }
  part : ∃ part, part <+: text ∧ k'.1.output = k.1.output ++ part
  whole : ∃ new, k'.2 = k.2 ++ new ∧ (.muted ∉ new → r = .ok () ∧ k'.1.output = k.1.output ++ text)

theorem ensures_forM_printLine_wrote (jobs : List Job) (k : State × List Noted) :
    (jobs.forM fun job => Builtin.printLine job.line).run.Ensures (contract reaper)
      (Wrote reaper (listing jobs) k) k := by
  induction jobs generalizing k with
  | nil =>
    refine Prog.ensures_pure ⟨.refl, ⟨[], List.nil_prefix, (List.append_nil _).symm⟩, [], (List.append_nil _).symm, ?_⟩
    exact fun _ => ⟨rfl, (List.append_nil _).symm⟩
  | cons job jobs ih =>
    rw [JobTable.listing_cons]
    refine Prog.ensures_run_bind ((ensures_printLine_printed job.line k).mono ?_)
    rintro _ _ ⟨s, hs, _ | hpart⟩
    · have houtput : s.output = k.1.output := congrArg Own.output (drifts_own hs)
      refine (ih _).mono ?_
      rintro r k' ⟨hrest, ⟨part, hpart, hwritten⟩, new, hnew, hwhole⟩
      refine ⟨?_, ⟨_, (List.prefix_append_right_inj _).mpr hpart, ?_⟩, new, hnew, fun hmuted => ⟨(hwhole hmuted).1, ?_⟩⟩
      · have hrest := drifts_write hrest k.1.output
        exact hs.trans (by rw [← houtput] at hrest ⊢; exact hrest)
      · rw [hwritten, ← houtput, List.append_assoc]
      · rw [(hwhole hmuted).2, ← houtput, List.append_assoc]
    · have houtput : s.output = k.1.output := congrArg Own.output (drifts_own hs)
      refine ⟨?_, ⟨_, hpart.trans (List.prefix_append _ _), congrArg (· ++ _) houtput⟩, [.muted], rfl, fun hmuted => ?_⟩
      · rw [← houtput]
        exact hs
      · exact absurd (List.mem_singleton_self _) hmuted

/-- What a line that lists the jobs comes to: the listing of a moment is written. -/
def Lists (reaper : Prop) (shell : Shell) (k : State × List Noted) (r : Except Failure Flow × Shell)
    (k' : State × List Noted) : Prop :=
  r.2.limits = shell.limits ∧ ∃ s, (world reaper).Drifts k.1 s ∧
    (world reaper).Drifts s { k'.1 with output := k.1.output } ∧
    (∃ part, part <+: listing s.table.jobs ∧ k'.1.output = k.1.output ++ part) ∧
    ∃ new, k'.2 = k.2 ++ new ∧ (.muted ∉ new →
      r = (.ok .proceed, { shell with status := 0 }) ∧ k'.1.output = k.1.output ++ listing s.table.jobs)

theorem ensures_eval_lists (hk : k.1.held = false) {p : Pipeline} {args : List Text}
    (hp : Pipeline.parse shell.limits line = .ok p) (hc : p.command = .builtin .jobs args) :
    (shell.eval line).Ensures (contract reaper) (Lists reaper shell k) k := by
  refine Shell.ensures_eval_builtin_of hp hc (Builtin.ensures_proceed_of ?_)
  refine Prog.ensures_lift_bind ((ensures_look_at hk (·.jobs)).mono ?_)
  rintro _ k₁ ⟨hn₁, s, hs, rfl, hs₁⟩
  refine (ensures_forM_printLine_wrote s.table.jobs k₁).mono ?_
  rintro r k' ⟨hrest, hpart, new, hnew, hwhole⟩
  have houtput : k₁.1.output = k.1.output := congrArg Own.output ((drifts_own hs₁).trans (drifts_own hs))
  rw [houtput] at hrest hpart hwhole
  refine ⟨rfl, s, hs, hs₁.trans hrest, hpart, new, hn₁ ▸ hnew, fun hmuted => ?_⟩
  obtain ⟨rfl, hwritten⟩ := hwhole hmuted
  exact ⟨rfl, hwritten⟩

theorem Lists.drifts {r : Except Failure Flow × Shell} (h : Lists reaper shell k r k')
    (hd : (world reaper).Drifts k'.1 s') : Lists reaper shell k r (s', k'.2) := by
  have houtput : s'.output = k'.1.output := congrArg Own.output (drifts_own hd)
  obtain ⟨hlimits, s, hs, hrest, hpart, hnew⟩ := h
  refine ⟨hlimits, s, hs, hrest.trans (drifts_write hd _), ?_, ?_⟩
  · rwa [houtput]
  · rwa [houtput]

theorem concludes_eval_lists (hs : s.held = false) (notes : List Noted) {p : Pipeline} {args : List Text}
    (hp : Pipeline.parse shell.limits line = .ok p) (hc : p.command = .builtin .jobs args) :
    Prog.Concludes (noted reaper) (Lists reaper shell (s, notes)) (s, notes) (shell.eval line) :=
  concludes_of_ensures (halts_eval shell line) (ensures_eval_lists hs hp hc) fun _ _ _ h hd => h.drifts hd

/-- Without a reaper, the same is written each time. -/
theorem concludes_evalAll_lists (hr : ¬ reaper) (n : Nat) (hs : s.held = false) (notes : List Noted) {p : Pipeline}
    {args : List Text} (hp : Pipeline.parse shell.limits line = .ok p) (hc : p.command = .builtin .jobs args) :
    Prog.Concludes (noted reaper) (fun _ k' => k'.1.table = s.table ∧ ∃ new, k'.2 = notes ++ new ∧ (.muted ∉ new →
      k'.1.output = s.output ++ (List.replicate n (listing s.table.jobs)).flatten)) (s, notes)
      (evalAll shell (List.replicate n line)) := by
  induction n generalizing s notes shell with
  | zero =>
    refine .done fun k' hd => ?_
    obtain ⟨hdrifts, hnotes⟩ := Surroundings.noting_drifts_iff.mp hd
    refine ⟨drifts_table hdrifts hr, [], hnotes.trans (List.append_nil _).symm, fun _ => ?_⟩
    rw [congrArg Own.output (drifts_own hdrifts)]
    exact (List.append_nil _).symm
  | succ n ih =>
    refine Prog.Concludes.bind ((concludes_eval_lists hs notes hp hc).mono ?_)
    rintro ⟨result, after⟩ ⟨s₁, notes₁⟩ ⟨hlimits, s₀, hs₀, hrest, -, new, hnew, hwhole⟩
    have hheld : s₁.held = false := (drifts_held hrest).trans ((drifts_held hs₀).trans hs)
    have htable₀ : s₀.table = s.table := drifts_table hs₀ hr
    have htable : s₁.table = s.table := (drifts_table hrest hr).trans htable₀
    have hparse : Pipeline.parse after.limits line = .ok p := by rwa [hlimits]
    obtain rfl : notes₁ = notes ++ new := hnew
    refine Prog.Concludes.bind ((ih hheld _ hparse).mono ?_)
    rintro _ k₂ ⟨htable₂, new₂, hnew₂, hwhole₂⟩
    refine .done fun k' hd => ?_
    obtain ⟨hdrifts, hnotes⟩ := Surroundings.noting_drifts_iff.mp hd
    refine ⟨(drifts_table hdrifts hr).trans (htable₂.trans htable), new ++ new₂, ?_, fun hmuted => ?_⟩
    · rw [hnotes, hnew₂, List.append_assoc]
    · obtain ⟨hmuted₁, hmuted₂⟩ := not_or.mp (mt List.mem_append.mpr hmuted)
      obtain ⟨-, hwritten⟩ := hwhole hmuted₁
      have hwritten₂ := hwhole₂ hmuted₂
      rw [htable] at hwritten₂
      rw [htable₀] at hwritten
      rw [congrArg Own.output (drifts_own hdrifts), hwritten₂, hwritten, List.append_assoc]
      rfl

/-- Whatever lines have been evaluated, and with or without a reaper: the listing of the job table has one line for
each job, newest first, and from each line the id, the pid and the text of its job are read back. So two tables that
lines have led to are listed alike only if they show the same ids, pids and texts. A line that asks for `jobs` writes
the listing of the table, as it is at one moment, and changes nothing; without a reaper, it writes the same each time.
-/
theorem listing_read_back {s₀ : State} (h₀ : s₀.table = .empty) (hheld : s₀.held = false) (h : Evolves reaper s₀ s) :
    (listing s.table.jobs).splitOn '\n' = s.table.jobs.map Job.line ++ [[]] ∧
    (s.table.jobs.Pairwise fun a b => b.id < a.id) ∧
    readListing (listing s.table.jobs) = s.table.jobs.map Job.shown ∧
    (∀ (reaper' : Prop) (s₀' s' : State), s₀'.table = .empty → s₀'.held = false → Evolves reaper' s₀' s' →
      listing s'.table.jobs = listing s.table.jobs → s'.table.jobs.map Job.shown = s.table.jobs.map Job.shown) ∧
    ∀ (shell : Shell) (line : Text) (p : Pipeline) (args : List Text) (notes : List Noted),
      Pipeline.parse shell.limits line = .ok p → p.command = .builtin .jobs args →
        Prog.Concludes (noted reaper) (Lists reaper shell (s, notes)) (s, notes) (shell.eval line) ∧
        (¬ reaper → ∀ n, Prog.Concludes (noted reaper) (fun _ k' => k'.1.table = s.table ∧ ∃ new, k'.2 = notes ++ new ∧
          (.muted ∉ new → k'.1.output = s.output ++ (List.replicate n (listing s.table.jobs)).flatten)) (s, notes)
          (evalAll shell (List.replicate n line))) := by
  have texts : ∀ {reaper s₀ s}, s₀.table = .empty → s₀.held = false → Evolves reaper s₀ s →
      ∀ job ∈ s.table.jobs, '\n' ∉ job.text := fun h₀ hheld h job hjob => by
    have hbecomes := (h.keeps hheld).2
    rw [h₀] at hbecomes
    exact hbecomes.lineFeed_notMem_text hjob
  obtain ⟨hs, hbecomes⟩ := h.keeps hheld
  rw [h₀] at hbecomes
  obtain ⟨log, hfollows⟩ := hbecomes.follows JobTable.follows_empty
  have hread := JobTable.readListing_listing (texts h₀ hheld h)
  refine ⟨JobTable.splitOn_listing (texts h₀ hheld h), hfollows.newest, hread,
    fun reaper' s₀' s' h₀' hheld' h' he => ?_, fun shell line p args notes hp hc => ⟨concludes_eval_lists hs notes hp hc, fun hr n =>
      concludes_evalAll_lists hr n hs notes hp hc⟩⟩
  rw [← JobTable.readListing_listing (texts h₀' hheld' h'), he, hread]

/-! ### A text with brackets and digits -/

def bracketLine : Text := "a ]2 3&".toList

def bracketTable : JobTable := ⟨[⟨1, 71, 71, "a ]2 3".toList⟩], 1⟩

theorem reaches_bracketLine : ∃ s notes, s.table = bracketTable ∧ s.output = "[1] 71\n".toList ∧
    Prog.Reaches (noted False) ((alone, []), plainShell.eval bracketLine)
      ((s, notes), .done (.ok .proceed, plainShell)) := by
  have h : Prog.Reaches (noted False) ((alone, []), plainShell.eval bracketLine) _ := .refl
  replace h := h.tail (step_call .acquireJobs .empty ⟨rfl, rfl, rfl⟩)
  replace h := h.tail (step_call .fork (.ok (.parent 71)) ⟨by decide, rfl, rfl⟩)
  replace h := h.tail (step_call (.setGroup 71 71) (.ok ()) fun _ => rfl)
  replace h := h.tail (step_call (.releaseJobs bracketTable) () ⟨rfl, rfl⟩)
  replace h := h.tail (step_call (.print "[1] 71\n".toList) (.ok ()) rfl)
  exact ⟨_, _, rfl, rfl, h⟩

theorem reaches_jobs (hs : s.held = false) (htable : s.table = bracketTable) : ∃ s',
    Prog.Reaches (noted False) ((s, []), plainShell.eval "jobs".toList)
      ((s', []), .done (.ok .proceed, plainShell)) := by
  have h : Prog.Reaches (noted False) ((s, []), plainShell.eval "jobs".toList) _ := .refl
  replace h := h.tail (step_call .acquireJobs bracketTable ⟨hs, htable.symm, rfl⟩)
  replace h := h.tail (step_call (.releaseJobs bracketTable) () ⟨rfl, rfl⟩)
  replace h := h.tail (step_call (.print "[1] 71 a ]2 3\n".toList) (.ok ()) rfl)
  exact ⟨_, h⟩

theorem listing_read_back_bracketLine : ∃ s s', alone.table = .empty ∧ alone.held = false ∧ Evolves False alone s ∧
    s.table = bracketTable ∧ readListing "[1] 71 a ]2 3\n".toList = [(1, 71, "a ]2 3".toList)] ∧
    Prog.Reaches (noted False) ((s, []), plainShell.eval "jobs".toList) ((s', []), .done (.ok .proceed, plainShell)) ∧
    s'.output = "[1] 71\n[1] 71 a ]2 3\n".toList := by
  obtain ⟨s, notes, htable, houtput, hrun⟩ := reaches_bracketLine
  have hevolves : Evolves False alone s := .single (.line hrun.of_noting)
  obtain ⟨-, -, hread, -, hjobs⟩ := listing_read_back (s := s) rfl rfl hevolves
  rw [htable] at hread
  obtain ⟨s', hlist⟩ := reaches_jobs (hevolves.keeps rfl).1 htable
  obtain ⟨-, s₁, hs₁, -, -, new, hnew, hwhole⟩ := (hjobs plainShell _ _ [] [] rfl rfl).1.ends hlist
  obtain rfl : [] = new := hnew
  have hwritten := (hwhole List.not_mem_nil).2
  rw [drifts_table hs₁ not_false, htable, houtput] at hwritten
  exact ⟨s, s', rfl, rfl, hevolves, htable, hread, hlist, hwritten⟩

end JobShell.Estate
