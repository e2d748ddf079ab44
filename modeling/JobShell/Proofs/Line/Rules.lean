import JobShell.Proofs.Job.Interpreter

/-! # Rules for the programs of a line

Under any contract, what a line ensures can be read off the few calls that a contract is about: those that fork, wait,
write, and take the table or give it back. One rule for each program says how, and leaves the other calls out. -/

namespace JobShell

universe u

variable {κ : Type u} {K : Contract κ} {k : κ} {pid : Pid}

/-! ### Waiting -/

/-- What a failed wait is taken for; the shell waits again if it was interrupted. -/
def refusal? (pid : Pid) (e : Errno) : Option (Except Failure (Option Status)) :=
  if e = .interrupted then none else if e = .noChild then some (.ok none) else some (.error (.wait pid e))

/-- What a reply to a wait is taken for; a child that has not ended is waited for again. -/
def waited? (pid : Pid) : Except Errno Report → Option (Except Failure (Option Status))
  | .ok report =>
    match report.named with
    | .ok change => change.status?.map fun status => .ok (some status)
    | .error e => refusal? pid e
  | .error e => refusal? pid e

/-- A wait is one call, which is made again as long as it does not tell of an end. -/
theorem waitFor_eq (pid : Pid) : waitFor pid = Prog.repeated (fun _ : Unit => .call (.wait pid true) fun r =>
    .done ((waited? pid r).elim (.inl ()) .inr)) () := by
  refine congrArg (Prog.repeated · ()) (funext fun _ => ?_)
  show Prog.call (.wait pid true) _ = _
  refine congrArg (Prog.call _) (funext fun r => ?_)
  have refused : ∀ e, (if e = .interrupted then pure (.inl ()) else if e = .noChild then pure (.inr (.ok none))
      else pure (.inr (.error (.wait pid e))) : Prog (Unit ⊕ Except Failure (Option Status))) =
        .done ((refusal? pid e).elim (.inl ()) .inr) := by
    intro e
    unfold refusal?
    split
    · rfl
    · split <;> rfl
  cases r with
  | error e => exact refused e
  | ok report =>
    show (Prog.done report.named).bind _ = _
    rw [waited?]
    cases report.named with
    | error e => exact refused e
    | ok change =>
      cases change <;> rfl

theorem ensures_waitFor_of {Q : Except Failure (Option Status) → κ → Prop} (I : κ → Prop) (hI : I k)
    (hwait : ∀ k, I k → K.pre (.wait pid true) (fun r k' => match waited? pid r with
      | none => I k'
      | some answer => Q answer k') k) : (waitFor pid).Ensures K Q k := by
  rw [waitFor_eq]
  refine Prog.ensures_repeated (fun _ => I) hI fun _ k hk => K.mono (fun r k' hk' => ?_) (hwait k hk)
  show (Prog.done ((waited? pid r).elim (Sum.inl ()) Sum.inr)).Ensures K _ k'
  cases hr : waited? pid r with
  | none =>
    rw [hr] at hk'
    exact hk'
  | some answer =>
    rw [hr] at hk'
    exact hk'

/-- Waiting for one process after the other: `I` is about the answers so far. -/
theorem ensures_waitAll_of {F : Failure → κ → Prop} (I : List (Pid × Option Status) → κ → Prop)
    {pids : List Pid} {answers : List (Pid × Option Status)} (hI : I answers k)
    (hwait : ∀ pid ∈ pids, ∀ answers k, I answers k → (waitFor pid).Ensures K (fun r k' => match r with
      | .ok answer => I (answers ++ [(pid, answer)]) k'
      | .error f => F f k') k) :
    (waitAll pids).Ensures K (fun r k' => match r with
      | .ok statuses => statuses.length = pids.length ∧ I (answers ++ pids.zip statuses) k'
      | .error f => F f k') k := by
  induction pids generalizing answers k with
  | nil => exact Prog.ensures_pure ⟨rfl, by rwa [List.zip_nil_left, List.append_nil]⟩
  | cons pid pids ih =>
    obtain ⟨hfirst, hrest⟩ := List.forall_mem_cons.mp hwait
    refine Prog.ensures_bind ((hfirst answers k hI).mono ?_)
    rintro (f | answer) k₁ h₁
    · exact Prog.ensures_pure h₁
    · refine Prog.ensures_bind ((ih h₁ hrest).mono ?_)
      rintro (f | statuses) k₂ h₂
      · exact Prog.ensures_pure h₂
      · refine Prog.ensures_pure ⟨congrArg (· + 1) h₂.1, ?_⟩
        rw [List.zip_cons_cons, List.append_cons]
        exact h₂.2

/-- Waiting for one process after the other: what each wait keeps, all of them keep. -/
theorem ensures_waitAll_of_each {pids : List Pid} (I : κ → Prop) (hI : I k)
    (hwait : ∀ pid ∈ pids, ∀ k, I k → (waitFor pid).Ensures K (fun _ => I) k) :
    (waitAll pids).Ensures K (fun _ => I) k := by
  induction pids generalizing k with
  | nil => exact Prog.ensures_pure hI
  | cons pid pids ih =>
    obtain ⟨hfirst, hrest⟩ := List.forall_mem_cons.mp hwait
    refine Prog.ensures_bind ((hfirst k hI).mono ?_)
    rintro (f | answer) k₁ h₁
    · exact Prog.ensures_pure h₁
    · refine Prog.ensures_bind ((ih h₁ hrest).mono ?_)
      rintro (f | statuses) k₂ h₂
      · exact Prog.ensures_pure h₂
      · exact Prog.ensures_pure h₂

/-! ### The table -/

theorem ensures_look_of {α : Type} {f : JobTable → α} {Q : α → κ → Prop}
    (h : K.pre .acquireJobs (fun t k₁ => K.pre (.releaseJobs t) (fun _ k₂ => Q (f t) k₂) k₁) k) :
    (Registry.look f).Ensures K Q k :=
  Prog.ensures_perform (K.mono (fun _ _ h => Prog.ensures_perform h) h)

theorem ensures_remove_of {Q : Option Job → κ → Prop}
    (h : K.pre .acquireJobs (fun t k₁ => K.pre (.releaseJobs (t.remove pid).2) (fun _ k₂ => Q (t.remove pid).1 k₂) k₁)
      k) : (Registry.remove pid).Ensures K Q k :=
  Prog.ensures_perform (K.mono (fun _ _ h => Prog.ensures_perform h) h)

/-! ### Launching -/

namespace Launch

theorem ensures_start_of {i : Invocation} {w : Wiring} {Q : Except Errno Pid → κ → Prop}
    (hgroup : ∀ pid g, K.Ignores (.setGroup pid g))
    (hfork : K.pre .fork (fun r k' => match r with
      | .error e => Q (.error e) k'
      | .ok .child => (Child.run i w).Ensures K (fun _ _ => True) k'
      | .ok (.parent pid) => Q (.ok pid) k') k) : (start i w).Ensures K Q k := by
  refine Prog.ensures_perform (K.mono ?_ hfork)
  rintro (e | _ | pid) k' hk'
  · exact Prog.ensures_pure hk'
  · exact Prog.ensures_never hk'
  · obtain ⟨input, output, spare, group⟩ := w
    cases group with
    | none => exact Prog.ensures_pure hk'
    | some g => exact Prog.ensures_perform (hgroup _ _ fun _ => Prog.ensures_pure hk')

theorem ensures_abandon_of (I : List Pid → κ → Prop) {pids : List Pid} (hI : I pids k)
    (hkill : ∀ pid n, K.Ignores (.kill pid n))
    (hwait : ∀ pid pids k, I (pid :: pids) k → (waitFor pid).Ensures K (fun _ k' => I pids k') k) :
    (abandon pids).Ensures K (fun _ k' => I [] k') k := by
  induction pids generalizing k with
  | nil => exact Prog.ensures_pure hI
  | cons pid pids ih =>
    refine Prog.ensures_perform (hkill _ _ fun _ => Prog.ensures_bind ((hwait pid pids k hI).mono ?_))
    exact fun _ _ h => ih h

theorem ensures_launch_of {p : Pipeline} {Q : Except Failure Launched → κ → Prop}
    (hempty : p.stages = [] → Q (.ok (.foreground [])) k)
    (hrefused : ∀ f, p.stages.mapM Invocation.ofStage = .error f → Q (.error f) k)
    (hlaunch : ∀ stages, p.stages.mapM Invocation.ofStage = .ok stages → stages ≠ [] →
      stages.length = p.stages.length →
      (if p.background then background p.text stages else foreground stages).Ensures K Q k) :
    (launch p).Ensures K Q k := by
  unfold launch
  by_cases hp : p.stages = []
  · rw [if_pos (List.isEmpty_iff.mpr hp)]
    exact Prog.ensures_pure (hempty hp)
  · rw [if_neg (mt List.isEmpty_iff.mp hp)]
    cases hs : p.stages.mapM Invocation.ofStage with
    | error f => exact Prog.ensures_pure (hrefused f hs)
    | ok stages =>
      have hlength : stages.length = p.stages.length := (mapM_eq_ok_iff.mp hs).length_eq.symm
      refine hlaunch stages hs (fun hnil => hp ?_) hlength
      rwa [← List.length_eq_zero_iff, ← hlength, List.length_eq_zero_iff]

end Launch

/-! ### Builtins -/

/-- A program that is run only sometimes, and that changes nothing. -/
theorem ensures_ite_lift_of {α β : Type} {p : Prog α} {q : Action β} {Q : Except Failure β → κ → Prop} (b : Bool)
    (hp : p.Ensures K (fun _ k' => k' = k) k) (hq : q.run.Ensures K Q k) :
    (if b = true then (do let _ ← ExceptT.lift p; q) else q : Action β).run.Ensures K Q k := by
  cases b with
  | false => exact hq
  | true =>
    refine Prog.ensures_lift_bind (hp.mono ?_)
    rintro _ _ rfl
    exact hq

/-- The calls by which the terminal is handed over are of no account. -/
structure Contract.IgnoresTerminal (K : Contract κ) : Prop where
  isTerminal : ∀ d, K.Ignores (.isTerminal d)
  blockSignal : ∀ s b, K.Ignores (.blockSignal s b)
  setForeground : ∀ d g, K.Ignores (.setForeground d g)
  ownGroup : K.Ignores .ownGroup

theorem Contract.IgnoresTerminal.ensures_setForeground (h : K.IgnoresTerminal) (group : Pid) :
    (Terminal.setForeground group).Ensures K (fun _ k' => k' = k) k :=
  Prog.ensures_perform (h.blockSignal _ _ fun _ => Prog.ensures_perform (h.setForeground _ _ fun _ =>
    Prog.ensures_perform (h.blockSignal _ _ fun _ => rfl)))

theorem Contract.IgnoresTerminal.ensures_reclaim (h : K.IgnoresTerminal) :
    Terminal.reclaim.Ensures K (fun _ k' => k' = k) k :=
  Prog.ensures_perform (h.ownGroup fun _ => h.ensures_setForeground _)

namespace Builtin

theorem ensures_printLine_ignored (h : ∀ text, K.Ignores (.print text)) (text : Text) :
    (printLine text).run.Ensures K (fun _ k' => k' = k) k := by
  refine Prog.ensures_perform (h _ fun r => ?_)
  cases r <;> rfl

theorem ensures_resume_ignored (h : ∀ group n, K.Ignores (.killGroup group n)) (b : Builtin) (group : Pid) :
    (b.resume group).run.Ensures K (fun _ k' => k' = k) k := by
  refine Prog.ensures_perform (h _ _ fun r => ?_)
  cases r with
  | ok _ => rfl
  | error e => by_cases he : e = .noProcess <;> simp only [he, if_true, if_false] <;> rfl

theorem ensures_findJob_of {b : Builtin} {args : List Text} {Q : Except Failure Job → κ → Prop}
    (hrefused : ∀ f, b.jobId args = .error f → Q (.error f) k)
    (hlook : ∀ id, b.jobId args = .ok id → (Registry.find? id).Ensures K (fun found k' => match found with
      | some job => Q (.ok job) k'
      | none => Q (.error (.noSuchJob b.name id)) k') k) : (b.findJob args).run.Ensures K Q k := by
  refine Prog.ensures_run_bind (Prog.ensures_pure ?_)
  cases hid : b.jobId args with
  | error f => exact hrefused f hid
  | ok id =>
    refine Prog.ensures_lift_bind ((hlook id hid).mono ?_)
    rintro (_ | job) k' hk'
    · exact hk'
    · exact hk'

theorem ensures_printLine_of {line : Text} {Q : Except Failure Unit → κ → Prop}
    (h : K.pre (.print (line ++ ['\n'])) (fun r k' => match r with
      | .ok _ => Q (.ok ()) k'
      | .error e => Q (.error (.system e)) k') k) : (printLine line).run.Ensures K Q k := by
  refine Prog.ensures_perform (K.mono ?_ h)
  rintro (e | _) k' hk'
  · exact hk'
  · exact hk'

theorem ensures_resume_of {b : Builtin} {group : Pid} {Q : Except Failure Unit → κ → Prop}
    (h : K.pre (.killGroup group Signal.resume.number) (fun r k' => match r with
      | .ok _ => Q (.ok ()) k'
      | .error e => if e = .noProcess then Q (.ok ()) k' else Q (.error (.resume b.name e)) k') k) :
    (b.resume group).run.Ensures K Q k := by
  refine Prog.ensures_perform (K.mono ?_ h)
  rintro (e | _) k' hk'
  · by_cases he : e = .noProcess <;> simp only [he, if_true, if_false] at hk' ⊢ <;> exact hk'
  · exact hk'

/-- What is known of the job from step to step: when it has been found, when its text has been written, when the
terminal has been looked at and handed over, when its group has been continued, when it has been waited for, and when
the terminal has been taken back. -/
theorem ensures_foreground_of_steps {args : List Text} {Q : Except Failure Unit → κ → Prop}
    {found shown : Job → κ → Prop} {given resumed : Job → Bool → κ → Prop}
    {waited : Job → Bool → Except Failure (Option Status) → κ → Prop}
    {reclaimed : Job → Except Failure (Option Status) → κ → Prop}
    (hfind : (fg.findJob args).run.Ensures K (fun r k' => match r with
      | .ok job => found job k'
      | .error f => Q (.error f) k') k)
    (hprint : ∀ job k, found job k → (printLine job.text).run.Ensures K (fun r k' => match r with
      | .ok _ => shown job k'
      | .error f => Q (.error f) k') k)
    (hgive : ∀ job k, shown job k → K.pre (.isTerminal Terminal.descriptor) (fun there k' =>
      if there = true then (Terminal.setForeground job.group).Ensures K (fun _ k'' => given job true k'') k'
      else given job false k') k)
    (hresume : ∀ job there k, given job there k → (fg.resume job.group).run.Ensures K (fun r k' => match r with
      | .ok _ => resumed job there k'
      | .error f => Q (.error f) k') k)
    (hwait : ∀ job there k, resumed job there k → (waitFor job.pid).Ensures K (waited job there) k)
    (hreclaim : ∀ job r k, waited job true r k → Terminal.reclaim.Ensures K (fun _ k' => reclaimed job r k') k)
    (hkeep : ∀ job r k, waited job false r k → reclaimed job r k)
    (hremove : ∀ job r k, reclaimed job r k →
      (Registry.remove job.pid).Ensures K (fun _ k' => Q (r.map fun _ => ()) k') k) :
    (foreground args).run.Ensures K Q k := by
  refine Prog.ensures_run_bind (hfind.mono ?_)
  rintro (f | job) k hk
  · exact hk
  refine Prog.ensures_run_bind ((hprint job k hk).mono ?_)
  rintro (f | _) k hk
  · exact hk
  -- The two ways join again where the group is continued, and part again behind the wait.
  have hdone : ∀ r k, reclaimed job r k → (ExceptT.lift (Registry.remove job.pid) >>= fun _ => match r with
      | .ok _ => pure ()
      | .error f => throw f : Action Unit).run.Ensures K Q k := fun r k hk =>
    Prog.ensures_lift_bind ((hremove job r k hk).mono fun _ k' hk' => by
      cases r with
      | ok answer => exact hk'
      | error f => exact hk')
  have hrest : ∀ there k, given job there k → (do
      fg.resume job.group
      let status ← ExceptT.lift (waitFor job.pid)
      if there = true then
        let _ ← ExceptT.lift Terminal.reclaim
      let _ ← ExceptT.lift (Registry.remove job.pid)
      match status with
      | .ok _ => return
      | .error f => throw f : Action Unit).run.Ensures K Q k := by
    intro there k hk
    refine Prog.ensures_run_bind ((hresume job there k hk).mono ?_)
    rintro (f | _) k hk
    · exact hk
    refine Prog.ensures_lift_bind ((hwait job there k hk).mono fun r k hk => ?_)
    cases there with
    | false => exact hdone r k (hkeep job r k hk)
    | true => exact Prog.ensures_lift_bind ((hreclaim job r k hk).mono fun _ k hk => hdone r k hk)
  refine Prog.ensures_lift_bind (Prog.ensures_call (K.mono (fun there k hk => ?_) (hgive job k hk)))
  cases there with
  | false => exact hrest false k hk
  | true => exact Prog.ensures_lift_bind (hk.mono fun _ k hk => hrest true k hk)

/-- `B` is what is known of the job that was found, until it is waited for. -/
theorem ensures_foreground_of {args : List Text} {B : Job → κ → Prop} {Q : Except Failure Unit → κ → Prop}
    (hprint : ∀ text, K.Ignores (.print text)) (hterminal : K.IgnoresTerminal)
    (hkill : ∀ group n, K.Ignores (.killGroup group n))
    (hfind : (fg.findJob args).run.Ensures K (fun r k' => match r with
      | .ok job => B job k'
      | .error f => Q (.error f) k') k)
    (hfail : ∀ job f k, B job k → Q (.error f) k)
    (hwait : ∀ job k, B job k → (waitFor job.pid).Ensures K (fun r k' =>
      (Registry.remove job.pid).Ensures K (fun _ k'' => Q (r.map fun _ => ()) k'') k') k) :
    (foreground args).run.Ensures K Q k := by
  have keeps : ∀ {x : Action Unit} {job k}, B job k → x.run.Ensures K (fun _ k' => k' = k) k →
      x.run.Ensures K (fun r k' => match r with
        | .ok _ => B job k'
        | .error f => Q (.error f) k') k := fun {x job k} hk hx => hx.mono fun r k' h => by
    subst h
    cases r with
    | ok _ => exact hk
    | error f => exact hfail job f k' hk
  refine ensures_foreground_of_steps hfind (fun job k hk =>
    keeps hk (ensures_printLine_ignored hprint _)) (fun job k hk => hterminal.isTerminal _ fun there => ?_)
    (fun job _ k hk => keeps hk (ensures_resume_ignored hkill fg job.group)) (fun job _ k hk => hwait job k hk)
    (fun job r k hk => (hterminal.ensures_reclaim).mono fun _ k' h => h ▸ hk) (fun _ _ _ hk => hk)
    fun _ _ _ hk => hk
  cases there with
  | false => exact hk
  | true => exact (hterminal.ensures_setForeground _).mono fun _ k' h => h ▸ hk

theorem ensures_forM_printLine_of (I : κ → Prop) (hI : I k)
    (h : ∀ text k, I k → K.pre (.print text) (fun _ k' => I k') k) (jobs : List Job) :
    (jobs.forM fun job => printLine job.line).run.Ensures K (fun _ k' => I k') k := by
  induction jobs generalizing k with
  | nil => exact Prog.ensures_pure hI
  | cons job jobs ih =>
    refine Prog.ensures_run_bind ((ensures_printLine_of (Q := fun _ => I) (K.mono ?_ (h _ k hI))).mono ?_)
    · rintro (e | _) k' hk' <;> exact hk'
    · rintro (f | _) k' hk'
      · exact hk'
      · exact ih hk'

theorem ensures_forM_printLine_ignored (h : ∀ text, K.Ignores (.print text)) (jobs : List Job) :
    (jobs.forM fun job => printLine job.line).run.Ensures K (fun _ k' => k' = k) k :=
  ensures_forM_printLine_of (· = k) rfl (fun text _ hk => h text fun _ => hk) jobs

theorem ensures_changeDirectory_of {args : List Text} {Q : Except Failure Unit → κ → Prop}
    (hrefused : ∀ f, (f = misused cd ∨ ∃ path, f = .directoryNul path) → Q (.error f) k)
    (hchange : ∀ path, args = [path] → K.pre (.changeDirectory path.encode) (fun r k' => match r with
      | .ok _ => Q (.ok ()) k'
      | .error e => Q (.error (.directory path e)) k') k) : (changeDirectory args).run.Ensures K Q k := by
  unfold changeDirectory
  split
  · split
    · exact Prog.ensures_pure (hrefused _ (.inr ⟨_, rfl⟩))
    · refine Prog.ensures_perform (K.mono ?_ (hchange _ rfl))
      rintro (e | _) k' hk'
      · exact hk'
      · exact hk'
  · exact Prog.ensures_pure (hrefused _ (.inl rfl))

/-- All builtins but `exit` go on to the next line when they are done. -/
theorem ensures_proceed_of {x : Action Unit} {Q : Except Failure Flow → κ → Prop}
    (h : x.run.Ensures K (fun r k' => Q (r.map fun _ => .proceed) k') k) :
    (x >>= fun _ => pure .proceed : Action Flow).run.Ensures K Q k := by
  refine Prog.ensures_run_bind (h.mono ?_)
  rintro (f | _) k' hk'
  · exact hk'
  · exact hk'

end Builtin

/-! ### Lines -/

namespace Shell

theorem ensures_obey_of {limits : Limits} {line : Text} {Q : Except Failure (Flow × Option Status) → κ → Prop}
    (hparse : ∀ f, Pipeline.parse limits line = .error f → Q (.error f) k)
    (hempty : ∀ p, Pipeline.parse limits line = .ok p → p.stages = [] → Q (.ok (.proceed, none)) k)
    (hbuiltin : ∀ p b args, Pipeline.parse limits line = .ok p → p.command = .builtin b args →
      (b.run args).run.Ensures K (fun r k' => Q (r.map (·, none)) k') k)
    (hexternal : ∀ p, Pipeline.parse limits line = .ok p → p.command = .external p → p.stages ≠ [] →
      (launchLine p).run.Ensures K (fun r k' => Q (r.map (.proceed, ·)) k') k) :
    (obey limits line).run.Ensures K Q k := by
  unfold obey
  cases hp : Pipeline.parse limits line with
  | error f => exact Prog.ensures_pure (hparse f hp)
  | ok p =>
    by_cases hs : p.stages = []
    · simp only [List.isEmpty_iff.mpr hs, if_true]
      exact Prog.ensures_pure (hempty p hp hs)
    · simp only [mt List.isEmpty_iff.mp hs]
      cases hc : p.command with
      | builtin b args =>
        refine Prog.ensures_run_bind ((hbuiltin p b args hp hc).mono ?_)
        rintro (f | flow) k' hk'
        · exact hk'
        · exact hk'
      | external p' =>
        obtain rfl := Threads.eq_of_command_eq_external hc
        refine Prog.ensures_run_bind ((hexternal p' hp hc hs).mono ?_)
        rintro (f | status) k' hk'
        · exact hk'
        · exact hk'

theorem ensures_eval_of {shell : Shell} {line : Text} {Q : Except Failure Flow × Shell → κ → Prop}
    (h : (obey shell.limits line).run.Ensures K
      (fun r k' => Q (r.map (·.1), { shell with status := statusAfter r }) k') k) :
    (shell.eval line).Ensures K Q k :=
  Prog.ensures_bind (h.mono fun _ _ h => Prog.ensures_pure h)

/-- A line that asks for programs. -/
theorem ensures_eval_external_of {shell : Shell} {line : Text} {p : Pipeline}
    {Q : Except Failure Flow × Shell → κ → Prop} (hparse : Pipeline.parse shell.limits line = .ok p)
    (hcommand : p.command = .external p) (hne : p.stages ≠ [])
    (h : (launchLine p).run.Ensures K (fun r k' => Q (r.map fun _ => .proceed,
      { shell with status := statusAfter (r.map (.proceed, ·)) }) k') k) : (shell.eval line).Ensures K Q k := by
  have same : ∀ {q}, Pipeline.parse shell.limits line = .ok q → q = p := fun hq =>
    (Except.ok.inj (hparse.symm.trans hq)).symm
  refine ensures_eval_of (ensures_obey_of (fun f hf => ?_) (fun q hq hempty => ?_) (fun q b args hq hb => ?_)
    fun q hq _ _ => ?_)
  · rw [hparse] at hf
    cases hf
  · obtain rfl := same hq
    exact absurd hempty hne
  · obtain rfl := same hq
    rw [hcommand] at hb
    cases hb
  · obtain rfl := same hq
    refine h.mono fun r k' hr => ?_
    cases r <;> exact hr

/-- A line that asks for a builtin. -/
theorem ensures_eval_builtin_of {shell : Shell} {line : Text} {p : Pipeline} {b : Builtin} {args : List Text}
    {Q : Except Failure Flow × Shell → κ → Prop} (hparse : Pipeline.parse shell.limits line = .ok p)
    (hcommand : p.command = .builtin b args)
    (h : (b.run args).run.Ensures K
      (fun r k' => Q (r, { shell with status := statusAfter (r.map (·, none)) }) k') k) :
    (shell.eval line).Ensures K Q k := by
  have same : ∀ {q}, Pipeline.parse shell.limits line = .ok q → q = p := fun hq =>
    (Except.ok.inj (hparse.symm.trans hq)).symm
  refine ensures_eval_of (ensures_obey_of (fun f hf => ?_) (fun q hq hempty => ?_) (fun q b' args' hq hb => ?_)
    fun q hq hc _ => ?_)
  · rw [hparse] at hf
    cases hf
  · obtain rfl := same hq
    simp [Pipeline.command, hempty] at hcommand
  · obtain rfl := same hq
    obtain ⟨rfl, rfl⟩ := Command.builtin.inj (hcommand.symm.trans hb)
    refine h.mono fun r k' hr => ?_
    cases r <;> exact hr
  · obtain rfl := same hq
    rw [hcommand] at hc
    cases hc

end Shell

end JobShell
