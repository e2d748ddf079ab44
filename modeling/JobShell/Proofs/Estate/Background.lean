import JobShell.Proofs.Estate.Tables
import JobShell.Proofs.Launch.Foreground
import JobShell.Proofs.Launch.Unwaited

/-! # What registers a job

A pipeline in the background becomes one job at the head of the table. The job is announced, and it is found by its id
as long as it is in the table. -/

namespace JobShell.Estate
open Children (Ending)

variable {reaper : Prop} {s s' : State} {k k' k'' : State × List Noted} {p : Pipeline} {job : Job}

/-! ### The new job -/

/-- The stages have been forked, the last of them leads the new job, and the first its group. The job has the next id
and the text of the pipeline, and stands in front of the jobs that there were. The table has been given back. -/
structure Registers (s : State) (p : Pipeline) (new : List Noted) (job : Job) (s' : State) : Prop where
  stages : ∃ first rest, Spawning p.stages.length new (first :: rest) none ∧ job.group = first ∧
    job.pid = (first :: rest).getLast (List.cons_ne_nil _ _)
  leader : 0 < job.pid
  id : job.id = s.table.lastId + 1
  text : job.text = p.text
  table : s'.table = ⟨job :: (s.table.remove job.pid).2.jobs, job.id⟩
  free : s'.held = false
  /-- If the leader's pid has not been used for a job, all other jobs stay. -/
  others : (∀ other ∈ s.table.jobs, other.pid ≠ job.pid) → s'.table.jobs = job :: s.table.jobs

theorem Begun.registers (hr : ¬ reaper) {n : Nat} (hn : n = p.stages.length)
    {r : Except Failure Launched} (h : Begun reaper p.text n k r k') : ∃ new, k'.2 = k.2 ++ new ∧
      ((∀ f, .refused f ∉ new) → ∃ job, r = .ok (.background job) ∧ Registers k.1 p new job k'.1 ∧
        k'.1.toOwn = { k.1.toOwn with held := false }) := by
  subst hn
  cases h with
  | @started s s₁ made first rest hs hmade h =>
    refine ⟨made, rfl, fun _ => ⟨_, rfl, ?_, ?_⟩⟩
    · rw [drifts_table hs hr]
      refine ⟨⟨first, rest, hmade, rfl, rfl⟩, h.pos _ (List.getLast_mem _), rfl, rfl, rfl, rfl, fun habsent => ?_⟩
      exact congrArg (JobTable.jobs ·.2) (JobTable.add_of_absent habsent)
    · show { s₁.toOwn with held := false } = _
      rw [h.own, drifts_own hs]
  | refused hmade =>
    exact ⟨_, rfl, fun hgranted => absurd (List.mem_append_left _ hmade.refused_mem) (hgranted _)⟩

theorem ensures_launch_registers (hr : ¬ reaper) (hk : k.1.held = false) (hb : p.background = true)
    (hne : p.stages ≠ []) {stages : List Invocation} (hstages : p.stages.mapM Invocation.ofStage = .ok stages) :
    (launch p).Ensures (contract reaper) (fun r k' => ∃ new, k'.2 = k.2 ++ new ∧ ((∀ f, .refused f ∉ new) →
      ∃ job, r = .ok (.background job) ∧ Registers k.1 p new job k'.1 ∧
        k'.1.toOwn = { k.1.toOwn with held := false })) k := by
  have hlength : stages.length = p.stages.length := (mapM_eq_ok_iff.mp hstages).length_eq.symm
  refine Launch.ensures_launch_of (fun h => absurd h hne) (fun f hf => ?_) fun stages' hstages' hne' _ => ?_
  · rw [hstages] at hf
    cases hf
  · obtain rfl : stages = stages' := Except.ok.inj (hstages.symm.trans hstages')
    rw [if_pos hb]
    exact (ensures_background_begun hk p.text hne').mono fun _ _ h => h.registers hr hlength

theorem Registers.of_same {new : List Noted} (h : Registers s p new job s') {s'' : State} (ht : s''.table = s'.table)
    (hh : s''.held = s'.held) : Registers s p new job s'' :=
  ⟨h.stages, h.leader, h.id, h.text, ht.trans h.table, hh.trans h.free, fun habsent =>
    (congrArg JobTable.jobs ht).trans (h.others habsent)⟩

theorem ensures_eval_registers (hr : ¬ reaper) (hk : k.1.held = false) (hb : p.background = true) (hne : p.stages ≠ [])
    {stages : List Invocation} (hstages : p.stages.mapM Invocation.ofStage = .ok stages) {shell : Shell} {line : Text}
    (hparse : Pipeline.parse shell.limits line = .ok p) (hcommand : p.command = .external p) :
    (shell.eval line).Ensures (contract reaper) (fun r k' => ∃ new, k'.2 = k.2 ++ new ∧ ((∀ f, .refused f ∉ new) →
      .muted ∉ new → ∃ job, r = (.ok .proceed, { shell with status := 0 }) ∧ Registers k.1 p new job k'.1 ∧
        k'.1.output = k.1.output ++ (Shell.announcement job ++ ['\n']))) k := by
  refine Shell.ensures_eval_external_of hparse hcommand hne
    (Prog.ensures_run_bind ((ensures_launch_registers hr hk hb hne hstages).mono ?_))
  rintro (f | statuses | job) k₁ ⟨new, hnew, h⟩
  · exact ⟨new, hnew, fun hgranted _ => by obtain ⟨_, he, -⟩ := h hgranted; cases he⟩
  · exact Prog.ensures_pure ⟨new, hnew, fun hgranted _ => by obtain ⟨_, he, -⟩ := h hgranted; cases he⟩
  · refine Prog.ensures_run_bind ((ensures_printLine_printed (Shell.announcement job) k₁).mono ?_)
    rintro _ _ ⟨s, hs, _ | _⟩
    · refine Prog.ensures_pure ⟨new, hnew, fun hgranted _ => ?_⟩
      obtain ⟨_, he, hregisters, hown⟩ := h hgranted
      cases he
      have houtput : s.output = k.1.output := by
        have hall := congrArg Own.output ((drifts_own hs).trans hown)
        exact hall
      have htable : s.table = k₁.1.table := drifts_table hs hr
      have hheld : s.held = k₁.1.held := drifts_held hs
      exact ⟨job, rfl, hregisters.of_same htable hheld, congrArg (· ++ _) houtput⟩
    · refine ⟨new ++ [.muted], by rw [hnew, List.append_assoc], fun _ hmuted => ?_⟩
      exact absurd (List.mem_append_right _ (List.mem_singleton_self _)) hmuted

/-! ### The job, found by its id -/

theorem jobId_of_ofNat {id : Nat} (h : id ≤ Text.maxUnsigned) (b : Builtin) {argument : Text}
    (ha : argument = Text.ofNat id ∨ argument = '%' :: Text.ofNat id) : b.jobId [argument] = .ok id := by
  have hread : Builtin.readId? argument = some id := by
    rcases ha with rfl | rfl
    · obtain ⟨d, ds, hid, hdigit⟩ := Text.exists_ofNat_eq_cons id
      have hd : d ≠ '%' := by
        rintro rfl
        cases hdigit
      unfold Builtin.readId?
      rw [hid]
      split
      · rename_i he
        exact absurd (List.cons.inj he).1 hd
      · rw [← hid, Text.readUnsigned_ofNat h]
        rfl
    · rw [Builtin.readId?, Text.readUnsigned_ofNat h]
      rfl
  rw [Builtin.jobId, hread]

theorem ensures_findJob_finds (hr : ¬ reaper) (hk : k.1.held = false) {b : Builtin} {argument : Text}
    (hid : b.jobId [argument] = .ok job.id) (hfind : k.1.table.find? job.id = some job) :
    (b.findJob [argument]).run.Ensures (contract reaper) (fun r k' => r = .ok job ∧ k'.2 = k.2 ∧
      (world reaper).Drifts k.1 k'.1) k := by
  refine Builtin.ensures_findJob_of (fun f hf => ?_) fun id hid' => ?_
  · rw [hid] at hf
    cases hf
  · obtain rfl : job.id = id := Except.ok.inj (hid.symm.trans hid')
    refine (ensures_look_at hk _).mono ?_
    rintro found k' ⟨hn, s, hs, rfl, hs'⟩
    rw [drifts_table hs hr, hfind]
    exact ⟨rfl, hn, hs.trans hs'⟩

/-- What `fg` and `bg` do with a job: its group is continued, its leader may be waited for, and it may be removed. -/
inductive Addressed (job : Job) (t : JobTable) : List Noted → JobTable → Prop
  | muted : Addressed job t [.muted] t
  | resumed : Addressed job t [.killedGroup job.group Signal.resume.number] t
  | lost : Addressed job t [.killedGroup job.group Signal.resume.number] (t.remove job.pid).2
  | collected (e : Ending) :
      Addressed job t [.killedGroup job.group Signal.resume.number, .collected job.pid e] (t.remove job.pid).2

theorem ensures_remove_taken (hr : ¬ reaper) (hk : k.1.held = false) (pid : Pid) :
    (Registry.remove pid).Ensures (contract reaper)
      (fun _ k' => k'.2 = k.2 ∧ k'.1.table = (k.1.table.remove pid).2) k := by
  refine ensures_remove_of (pre_acquire hk fun s hs => pre_release rfl fun s' _ => ⟨rfl, ?_⟩)
  rw [← drifts_table hs hr]

theorem ensures_background_addressed (hr : ¬ reaper) (hk : k.1.held = false) {argument : Text}
    (hid : Builtin.bg.jobId [argument] = .ok job.id) (hfind : k.1.table.find? job.id = some job) :
    (Builtin.background [argument]).run.Ensures (contract reaper) (fun _ k' => ∃ new, k'.2 = k.2 ++ new ∧
      Addressed job k.1.table new k'.1.table) k := by
  refine Prog.ensures_run_bind ((ensures_findJob_finds hr hk hid hfind).mono ?_)
  rintro _ k₁ ⟨rfl, hn₁, hs₁⟩
  refine (Builtin.ensures_resume_sent .bg job.group k₁).mono ?_
  rintro _ _ rfl
  refine ⟨_, congrArg (· ++ _) hn₁, ?_⟩
  rw [drifts_table hs₁ hr]
  exact .resumed

theorem ensures_foreground_addressed (hr : ¬ reaper) (hk : k.1.held = false) (hpos : 0 < job.pid) {argument : Text}
    (hid : Builtin.fg.jobId [argument] = .ok job.id) (hfind : k.1.table.find? job.id = some job) :
    (Builtin.foreground [argument]).run.Ensures (contract reaper) (fun _ k' => ∃ new, k'.2 = k.2 ++ new ∧
      Addressed job k.1.table new k'.1.table) k := by
  refine Prog.ensures_run_bind ((ensures_findJob_finds hr hk hid hfind).mono ?_)
  rintro _ k₁ ⟨rfl, hn₁, hs₁⟩
  refine Prog.ensures_run_bind ((ensures_printLine_printed job.text k₁).mono ?_)
  rintro _ _ ⟨s, hs, hprinted⟩
  have htable : s.table = k.1.table := drifts_table (hs₁.trans hs) hr
  have hheld : s.held = false := (drifts_held (hs₁.trans hs)).trans hk
  rw [hn₁] at hprinted
  cases hprinted with
  | muted => exact ⟨_, rfl, htable ▸ .muted⟩
  | whole =>
    refine Prog.ensures_lift_bind (Prog.ensures_call (ignores_terminal.isTerminal _ fun terminal => ?_))
    refine ensures_ite_lift_of terminal (ignores_terminal.ensures_setForeground _) ?_
    refine Prog.ensures_run_bind ((Builtin.ensures_resume_sent .fg job.group _).mono ?_)
    rintro (f | _) _ rfl
    · exact ⟨_, rfl, htable ▸ .resumed⟩
    refine Prog.ensures_lift_bind ((ensures_waitFor job.pid _).mono fun r k₂ h₂ => ?_)
    refine ensures_ite_lift_of terminal ignores_terminal.ensures_reclaim ?_
    -- Whatever the wait has told, the job is taken out of the table.
    obtain ⟨new, hheld₂, htable₂, hn₂, haddressed⟩ : ∃ new, k₂.1.held = false ∧ k₂.1.table = k.1.table ∧
        k₂.2 = k.2 ++ new ∧ Addressed job k.1.table new (k.1.table.remove job.pid).2 := by
      obtain ⟨s₂, hs₂, @⟨q, e, hq, -⟩ | -⟩ := h₂
      · obtain rfl := hq hpos
        exact ⟨_, (drifts_held hs₂).trans hheld, (drifts_table hs₂ hr).trans htable, List.append_assoc .., .collected e⟩
      · exact ⟨_, (drifts_held hs₂).trans hheld, (drifts_table hs₂ hr).trans htable, rfl, .lost⟩
    refine Prog.ensures_lift_bind ((ensures_remove_taken hr hheld₂ job.pid).mono ?_)
    rintro _ k₃ ⟨hn₃, htable₃⟩
    rw [htable₂] at htable₃
    cases r <;> exact Prog.ensures_pure ⟨new, hn₃.trans hn₂, htable₃ ▸ haddressed⟩

/-- As long as the job is in the table, its id finds it, with or without the sign, and `fg` and `bg` are about it. -/
def Answers (job : Job) (s' : State) : Prop :=
  ∀ s₂, Evolves False s' s₂ → job ∈ s₂.table.jobs → ∀ (argument : Text) (notes : List Noted),
    argument = Text.ofNat job.id ∨ argument = '%' :: Text.ofNat job.id →
      (∀ b : Builtin, Prog.Concludes (noted False) (fun r k' => r = .ok job ∧ k'.2 = notes ∧ k'.1.table = s₂.table)
        (s₂, notes) (b.findJob [argument]).run) ∧
      ∀ (b : Builtin) (shell : Shell) (line : Text) (p : Pipeline), b = .fg ∨ b = .bg →
        Pipeline.parse shell.limits line = .ok p → p.command = .builtin b [argument] →
          Prog.Concludes (noted False) (fun _ k' => ∃ new, k'.2 = notes ++ new ∧
            Addressed job s₂.table new k'.1.table) (s₂, notes) (shell.eval line)

theorem Registers.answers {new : List Noted} (h : Registers s p new job s') {log : List JobTable.Operation}
    (hlog : JobTable.Follows log s.table) (hid : job.id ≤ Text.maxUnsigned) : Answers job s' := by
  have hadd : s'.table = (s.table.add job.pid job.group job.text).2 := by
    rw [h.table, JobTable.add, ← h.id]
  have hfollows := hadd ▸ hlog.add job.pid job.group job.text
  intro s₂ hevolves hjob argument notes hargument
  obtain ⟨hheld, hbecomes⟩ := hevolves.keeps h.free
  obtain ⟨later, hfollows₂⟩ := hbecomes.follows hfollows
  have hfind : s₂.table.find? job.id = some job := hfollows₂.find?_eq_some_iff.mpr ⟨hjob, rfl⟩
  refine ⟨fun b => ?_, fun b shell line p hb hp hc => ?_⟩
  · refine concludes_of_ensures (Builtin.halts_findJob b [argument])
      (ensures_findJob_finds not_false hheld (jobId_of_ofNat hid b hargument) hfind) ?_
    rintro r k₁ s' ⟨rfl, hn, hs⟩ hd
    exact ⟨rfl, hn, drifts_table (hs.trans hd) not_false⟩
  · have hbuiltin := jobId_of_ofNat hid b hargument
    have heval : (shell.eval line).Ensures (contract False) (fun _ k' => ∃ new, k'.2 = notes ++ new ∧
        Addressed job s₂.table new k'.1.table) (s₂, notes) := by
      refine Shell.ensures_eval_builtin_of hp hc ?_
      rcases hb with rfl | rfl
      · exact Builtin.ensures_proceed_of
          (ensures_foreground_addressed (k := (s₂, notes)) not_false hheld h.leader hbuiltin hfind)
      · exact Builtin.ensures_proceed_of
          (ensures_background_addressed (k := (s₂, notes)) not_false hheld hbuiltin hfind)
    refine concludes_of_ensures (halts_eval shell line) heval ?_
    rintro r k₁ s' ⟨new, hn, haddressed⟩ hd
    have htable : s'.table = k₁.1.table := drifts_table hd not_false
    exact ⟨new, hn, htable ▸ haddressed⟩

/-- Behind whatever operations on the job table, and without a reaper: a pipeline in the background that has a stage is
launched without a wait. If no pipe and no process is refused, one job is added, with an id that no job has had, and a
line that asks for the pipeline prints the id and the leader of the job and sets the status to 0. From then on the id
addresses this job, through `fg` and through `bg`, until it is taken out of the table. -/
theorem background_registers (hb : p.background = true) (hne : p.stages ≠ []) {stages : List Invocation}
    (hstages : p.stages.mapM Invocation.ofStage = .ok stages) (hs : s.held = false) {log : List JobTable.Operation}
    (hlog : s.table = (JobTable.empty.operate log).2) (notes : List Noted) :
    (∀ trace job, Prog.Runs (launch p) trace (.ok (.background job)) → ∀ e ∈ trace, e.call.waits = false) ∧
    (s.table.lastId = JobTable.adds log ∧ ∀ other ∈ s.table.jobs, other.id ≤ s.table.lastId) ∧
    Prog.Concludes (noted False) (fun r k' => ∃ new, k'.2 = notes ++ new ∧ ((∀ f, .refused f ∉ new) →
      ∃ job, r = .ok (.background job) ∧ Registers s p new job k'.1 ∧
        (job.id ≤ Text.maxUnsigned → Answers job k'.1))) (s, notes) (launch p) ∧
    ∀ (shell : Shell) (line : Text), Pipeline.parse shell.limits line = .ok p → p.command = .external p →
      Prog.Concludes (noted False) (fun r k' => ∃ new, k'.2 = notes ++ new ∧ ((∀ f, .refused f ∉ new) → .muted ∉ new →
        ∃ job, r = (.ok .proceed, { shell with status := 0 }) ∧ Registers s p new job k'.1 ∧
          k'.1.output = s.output ++ ('[' :: Text.ofNat job.id ++ ']' :: ' ' :: Text.ofInt job.pid ++ ['\n']) ∧
          (job.id ≤ Text.maxUnsigned → Answers job k'.1))) (s, notes) (shell.eval line) := by
  have hfollows : JobTable.Follows log s.table := hlog ▸ (JobTable.follows_empty.operate log).1
  refine ⟨fun _ _ => Launch.launch_background_unwaited, ⟨hfollows.lastId, fun other hother =>
    (hfollows.bounds other hother).2⟩, ?_, fun shell line hparse hcommand => ?_⟩
  · refine concludes_of_ensures (Launch.halts_launch p) (ensures_launch_registers not_false hs hb hne hstages) ?_
    rintro r k₁ s' ⟨new, hn, hall⟩ hd
    refine ⟨new, hn, fun hgranted => ?_⟩
    obtain ⟨job, rfl, hregisters, -⟩ := hall hgranted
    have hregisters := hregisters.of_same (drifts_table hd not_false) (drifts_held hd)
    exact ⟨job, rfl, hregisters, hregisters.answers hfollows⟩
  · refine concludes_of_ensures (halts_eval shell line)
      (ensures_eval_registers not_false hs hb hne hstages hparse hcommand) ?_
    rintro r k₁ s' ⟨new, hn, hall⟩ hd
    refine ⟨new, hn, fun hgranted hmuted => ?_⟩
    obtain ⟨job, rfl, hregisters, houtput⟩ := hall hgranted hmuted
    have hregisters := hregisters.of_same (drifts_table hd not_false) (drifts_held hd)
    refine ⟨job, rfl, hregisters, ?_, hregisters.answers hfollows⟩
    rw [congrArg Own.output (drifts_own hd), houtput]
    rfl

/-! ### Two stages, and `bg` for them -/

def pairLine : Text := "a|b&".toList

def pairPipeline : Pipeline := ⟨[Children.bareStage ['a'], Children.bareStage ['b']], true⟩

def pairJob : Job := ⟨1, 72, 71, "a | b".toList⟩

def pairNotes : List Noted := [.pipe, .forked 71, .forked 72]

theorem reaches_pair : ∃ s, s.held = false ∧ s.table = ⟨[pairJob], 1⟩ ∧
    Prog.Reaches (noted False) ((alone, []), plainShell.eval pairLine)
      ((s, pairNotes), .done (.ok .proceed, plainShell)) := by
  have h : Prog.Reaches (noted False) ((alone, []), plainShell.eval pairLine) _ := .refl
  replace h := h.tail (step_call .acquireJobs .empty ⟨rfl, rfl, rfl⟩)
  replace h := h.tail (step_call .pipe (.ok (3, 4)) ⟨by decide, rfl, rfl, 0, rfl⟩)
  replace h := h.tail (step_call .fork (.ok (.parent 71)) ⟨by decide, rfl, rfl⟩)
  replace h := h.tail (step_call (.setGroup 71 71) (.ok ()) fun _ => rfl)
  replace h := h.tail (step_call (.close 4) (.ok ()) rfl)
  replace h := h.tail (step_call .fork (.ok (.parent 72)) ⟨by decide, rfl, rfl⟩)
  replace h := h.tail (step_call (.setGroup 72 71) (.ok ()) fun _ => rfl)
  replace h := h.tail (step_call (.close 3) (.ok ()) rfl)
  replace h := h.tail (step_call (.releaseJobs ⟨[pairJob], 1⟩) () ⟨rfl, rfl⟩)
  replace h := h.tail (step_call (.print "[1] 72\n".toList) (.ok ()) rfl)
  exact ⟨_, rfl, rfl, h⟩

theorem reaches_resumed (hs : s.held = false) (htable : s.table = ⟨[pairJob], 1⟩) : ∃ s',
    Prog.Reaches (noted False) ((s, []), plainShell.eval "bg %1".toList)
      ((s', [.killedGroup 71 Signal.resume.number]), .done (.ok .proceed, plainShell)) := by
  have h : Prog.Reaches (noted False) ((s, []), plainShell.eval "bg %1".toList) _ := .refl
  replace h := h.tail (step_call .acquireJobs ⟨[pairJob], 1⟩ ⟨hs, htable.symm, rfl⟩)
  replace h := h.tail (step_call (.releaseJobs ⟨[pairJob], 1⟩) () ⟨rfl, rfl⟩)
  replace h := h.tail (step_call (.killGroup 71 Signal.resume.number) (.ok ()) fun _ => rfl)
  exact ⟨_, h⟩

theorem background_registers_pair : ∃ s s', pairPipeline.background = true ∧ pairPipeline.stages ≠ [] ∧
    pairPipeline.stages.mapM Invocation.ofStage = .ok [⟨[[97]], none, none⟩, ⟨[[98]], none, none⟩] ∧
    alone.held = false ∧ alone.table = (JobTable.empty.operate []).2 ∧
    Pipeline.parse plainShell.limits pairLine = .ok pairPipeline ∧ pairPipeline.command = .external pairPipeline ∧
    Prog.Reaches (noted False) ((alone, []), plainShell.eval pairLine)
      ((s, pairNotes), .done (.ok .proceed, plainShell)) ∧
    Registers alone pairPipeline pairNotes pairJob s ∧ s.output = "[1] 72\n".toList ∧ pairJob ∈ s.table.jobs ∧
    Prog.Reaches (noted False) ((s, []), plainShell.eval "bg %1".toList)
      ((s', [.killedGroup 71 Signal.resume.number]), .done (.ok .proceed, plainShell)) ∧
    Addressed pairJob s.table [.killedGroup 71 Signal.resume.number] s'.table := by
  have hne : pairPipeline.stages ≠ [] := List.cons_ne_nil _ _
  have hstages : pairPipeline.stages.mapM Invocation.ofStage = .ok [⟨[[97]], none, none⟩, ⟨[[98]], none, none⟩] := rfl
  have hlog : alone.table = (JobTable.empty.operate []).2 := rfl
  have hparse : Pipeline.parse plainShell.limits pairLine = .ok pairPipeline := rfl
  obtain ⟨s, hheld, htable, hrun⟩ := reaches_pair
  obtain ⟨s', hresumed⟩ := reaches_resumed hheld htable
  obtain ⟨-, -, -, heval⟩ := background_registers rfl hne hstages rfl hlog []
  obtain ⟨new, hnew, hall⟩ := (heval plainShell pairLine hparse rfl).ends hrun
  obtain rfl : pairNotes = new := hnew
  obtain ⟨job, -, hregisters, houtput, hanswers⟩ := hall (fun f => by simp [pairNotes]) (by simp [pairNotes])
  have hjob : pairJob = job := by
    have hjobs := hregisters.table.symm.trans htable
    exact (List.cons.inj (congrArg JobTable.jobs hjobs)).1.symm
  subst hjob
  have hmem : pairJob ∈ s.table.jobs := htable ▸ List.mem_singleton_self _
  obtain ⟨-, hid⟩ := hanswers (by decide) s .refl hmem "%1".toList [] (.inr rfl)
  obtain ⟨new, hnew, haddressed⟩ := (hid .bg plainShell "bg %1".toList _ (.inr rfl) rfl rfl).ends hresumed
  obtain rfl : [.killedGroup 71 Signal.resume.number] = new := hnew
  exact ⟨s, s', rfl, hne, hstages, rfl, hlog, hparse, rfl, hrun, hregisters, houtput, hmem, hresumed, haddressed⟩

end JobShell.Estate
