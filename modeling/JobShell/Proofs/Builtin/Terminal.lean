import JobShell.Proofs.Builtin.Table

/-! # Who has the terminal behind `fg`

While `fg` waits for a job, the job has the terminal. Behind the wait the interpreter takes it back, whatever the wait
has answered. There is one way past this: if the job cannot be continued, `fg` fails before the wait, and the terminal
stays with the job. A job without processes is no such failure. -/

namespace JobShell.Builtin
open JobTable (Operation)

/-! ### A terminal with an owner -/

/-- The job table, which nobody else takes, and the foreground group of the terminal. -/
structure Console extends Desk where
  owner : Pid

namespace Console

/-- How a call can be replied to, and what it does. The interpreter's own group can have the terminal at any time, and
any other group may be refused. While a job runs, the terminal can go to any group. -/
def Answer (own : Pid) : (c : Call) → Console → c.Reply → Console → Prop
  | .isTerminal _, s, there, s' => there = true ∧ s' = s
  | .ownGroup, s, group, s' => group = own ∧ s' = s
  | .setForeground _ group, s, .ok _, s' => s' = { s with owner := group }
  | .setForeground _ group, s, .error _, s' => group ≠ own ∧ s' = s
  | .wait _ _, s, _, s' => s'.toDesk = s.toDesk
  | c, s, r, s' => Desk.Answer c s.toDesk r s'.toDesk ∧ s'.owner = s.owner

def surroundings (own : Pid) : Surroundings Console := ⟨Answer own, fun _ _ => False⟩

abbrev contract (own : Pid) : Contract Console := (surroundings own).contract id

variable {own group : Pid} {k : Console}

/-- The calls that are neither about the table nor about the terminal, nor waits. -/
def Quiet : Call → Prop
  | .print _ | .blockSignal _ _ | .killGroup _ _ => True
  | _ => False

theorem ignores_of_quiet (c : Call) (hc : Quiet c) : (contract own).Ignores c := by
  rintro P k h s r ⟨desk, owner⟩ rfl ha
  obtain ⟨s, _⟩ := s
  cases c <;> first
    | exact hc.elim
    | obtain ⟨rfl, rfl⟩ : desk = s ∧ _ := ha
      exact h r

theorem ensures_setForeground {P : Except Errno Unit → Console → Prop}
    (hgiven : P (.ok ()) { k with owner := group }) (hrefused : ∀ e, group ≠ own → P (.error e) k) :
    (Terminal.setForeground group).Ensures (contract own) P k := by
  refine Prog.ensures_perform (ignores_of_quiet (.blockSignal _ _) trivial fun _ => ?_)
  refine Prog.ensures_perform ?_
  rintro s (e | _) s' rfl ha
  · obtain ⟨hne, rfl⟩ := ha
    exact ignores_of_quiet (.blockSignal _ _) trivial fun _ => hrefused e hne
  · obtain rfl : s' = _ := ha
    exact ignores_of_quiet (.blockSignal _ _) trivial fun _ => hgiven

/-- The interpreter always gets the terminal back when it asks for it. -/
theorem ensures_reclaim : Terminal.reclaim.Ensures (contract own) (fun _ k' => k' = { k with owner := own }) k := by
  refine Prog.ensures_perform ?_
  rintro s _ s' rfl ⟨rfl, rfl⟩
  exact ensures_setForeground rfl fun _ hne => absurd rfl hne

theorem ensures_waitFor (pid : Pid) :
    (waitFor pid).Ensures (contract own) (fun _ k' => k'.toDesk = k.toDesk) k := by
  refine ensures_waitFor_of (fun k' => k'.toDesk = k.toDesk) rfl fun k' hk' s r s' hs ha => ?_
  have hdesk : (id s').toDesk = k.toDesk := (ha.trans (congrArg Console.toDesk hs)).trans hk'
  dsimp only
  cases waited? pid r <;> exact hdesk

/-- The table is taken, and another one is given back. -/
theorem pre_update {t : JobTable} {P : JobTable → Unit → Console → Prop} {f : JobTable → JobTable}
    (h : P t () ⟨⟨f t, false⟩, group⟩) :
    (contract own).pre .acquireJobs (fun t => (contract own).pre (.releaseJobs (f t)) (P t)) ⟨⟨t, false⟩, group⟩ := by
  rintro _ table ⟨desk, owner⟩ rfl ⟨⟨-, rfl, hdesk⟩, howner⟩
  obtain rfl : owner = group := howner
  obtain rfl : desk = ⟨table, true⟩ := hdesk
  rintro _ ⟨⟩ ⟨desk, owner'⟩ rfl ⟨⟨-, hdesk⟩, howner⟩
  obtain rfl : owner' = owner := howner
  obtain rfl : desk = ⟨f table, false⟩ := hdesk
  exact h

end Console

/-! ### The terminal behind `fg` -/

open Console (surroundings contract)

variable {t : JobTable} {args : List Text} {own : Pid} {id : Nat} {job : Job}

/-- The job was left with the terminal, because it could not be continued. -/
def LeftWith (args : List Text) (t : JobTable) (owner : Pid) (r : Except Failure Flow) : Prop :=
  ∃ id job e, fg.Names args t id job ∧ owner = job.group ∧ e ≠ .noProcess ∧ r = .error (.resume fg.name e)

/-- What is known while `fg` looks after a job: the table is as it was found, and who can have the terminal. -/
def Serves (args : List Text) (t : JobTable) (Owner : Pid → Prop) (job : Job) (k : Console) : Prop :=
  k.toDesk = ⟨t, false⟩ ∧ Owner k.owner ∧ ∃ id, fg.Names args t id job

theorem ensures_foreground_terminal (args : List Text) : (foreground args).run.Ensures (contract own)
    (fun r k' => k'.owner = own ∨ LeftWith args t k'.owner (r.map fun _ => .proceed)) ⟨⟨t, false⟩, own⟩ := by
  refine @ensures_foreground_of_steps _ _ _ _ _ (Serves args t (· = own)) (Serves args t (· = own))
    (fun job there => Serves args t (fun owner => there = true ∧ (owner = own ∨ owner = job.group)) job)
    (fun job there => Serves args t (fun _ => there = true) job)
    (fun job there _ => Serves args t (fun _ => there = true) job) (fun job _ => Serves args t (· = own) job)
    ?_ (fun job k hk => ?_) (fun job k hk => ?_) (fun job there k hk => ?_) (fun job there k hk => ?_)
    (fun job r k hk => ?_) (fun job r k hk => ?_) fun job r k hk => ?_
  · refine ensures_findJob_of (fun f hf => .inl rfl) fun id hid => ensures_look_of (Console.pre_update ?_)
    cases hfound : t.find? id with
    | none => exact .inl rfl
    | some job => exact ⟨rfl, rfl, id, hid, hfound⟩
  · refine ensures_printLine_of (Console.ignores_of_quiet (.print _) trivial ?_)
    rintro (e | _)
    · exact .inl hk.2.1
    · exact hk
  · rintro s there s' rfl ⟨rfl, rfl⟩
    exact Console.ensures_setForeground ⟨hk.1, ⟨rfl, .inr rfl⟩, hk.2.2⟩ fun _ _ => ⟨hk.1, ⟨rfl, .inl hk.2.1⟩, hk.2.2⟩
  · obtain ⟨hdesk, ⟨hthere, howner⟩, id, hnamed⟩ := hk
    refine ensures_resume_of (Console.ignores_of_quiet (.killGroup _ _) trivial ?_)
    rintro (e | _)
    · dsimp only
      split_ifs with he
      · exact ⟨hdesk, hthere, id, hnamed⟩
      · exact howner.imp_right fun howner => ⟨id, job, e, hnamed, howner, he, rfl⟩
    · exact ⟨hdesk, hthere, id, hnamed⟩
  · exact (Console.ensures_waitFor job.pid).mono fun r k' hdesk => ⟨hdesk.trans hk.1, hk.2⟩
  · refine Console.ensures_reclaim.mono ?_
    rintro _ _ rfl
    exact ⟨hk.1, rfl, hk.2.2⟩
  · cases hk.2.1
  · obtain ⟨⟨table, taken⟩, owner⟩ := k
    obtain ⟨hdesk, rfl, -⟩ := hk
    cases hdesk
    exact ensures_remove_of (Console.pre_update (.inl rfl))

theorem step_call {α : Type} {k : Console} (c : Call) {next : c.Reply → Prog α} (r : c.Reply) (k' : Console)
    (h : Console.Answer own c k r k') : Prog.Step (surroundings own) (k, .call c next) (k', next r) :=
  .call h

/-- The job gets the terminal, and its group is not continued. -/
theorem reaches_left (hnamed : fg.Names args t id job) (own : Pid) {e : Errno} (he : e ≠ .noProcess) :
    Prog.Reaches (surroundings own) (⟨⟨t, false⟩, own⟩, (fg.run args).run)
      (⟨⟨t, false⟩, job.group⟩, .done (.error (.resume fg.name e))) := by
  obtain ⟨hid, hfound⟩ := hnamed
  have hlook : Prog.Reaches (surroundings own)
      (⟨⟨t, false⟩, own⟩, (ExceptT.lift (Registry.find? id) : Action (Option Job)).run)
      (⟨⟨t, false⟩, own⟩, .done (.ok (some job))) := by
    rw [← hfound]
    refine .head (step_call .acquireJobs t ⟨⟨t, true⟩, own⟩ ⟨⟨rfl, rfl, rfl⟩, rfl⟩) ?_
    exact .single (step_call (.releaseJobs t) () ⟨⟨t, false⟩, own⟩ ⟨⟨rfl, rfl⟩, rfl⟩)
  have hfind : Prog.Reaches (surroundings own) (⟨⟨t, false⟩, own⟩, (fg.findJob args).run)
      (⟨⟨t, false⟩, own⟩, .done (.ok job)) := by
    rw [findJob, hid]
    exact hlook.run_bind _
  have h : Prog.Reaches (surroundings own) (⟨⟨t, false⟩, own⟩, (foreground args).run) _ := hfind.run_bind _
  replace h := h.tail (step_call (.print (job.text ++ ['\n'])) (.ok ()) ⟨⟨t, false⟩, own⟩ ⟨rfl, rfl⟩)
  replace h := h.tail (step_call (.isTerminal 0) true _ ⟨rfl, rfl⟩)
  replace h := h.tail (step_call (.blockSignal .terminalOutput true) () ⟨⟨t, false⟩, own⟩ ⟨rfl, rfl⟩)
  replace h := h.tail (step_call (.setForeground 0 job.group) (.ok ()) _ rfl)
  replace h := h.tail (step_call (.blockSignal .terminalOutput false) () ⟨⟨t, false⟩, job.group⟩ ⟨rfl, rfl⟩)
  have hresume : Prog.Reaches (surroundings own) (⟨⟨t, false⟩, job.group⟩, (fg.resume job.group).run)
      (⟨⟨t, false⟩, job.group⟩, .done (.error (.resume fg.name e))) := by
    refine .head (step_call (.killGroup job.group Signal.resume.number) (.error e) ⟨⟨t, false⟩, job.group⟩
      ⟨rfl, rfl⟩) ?_
    show Prog.Reaches (surroundings own) (_, if e = .noProcess then Prog.done (Except.ok ()) else
      Prog.done (Except.error (Failure.resume fg.name e))) _
    rw [if_neg he]
  have hforeground : Prog.Reaches (surroundings own) (⟨⟨t, false⟩, own⟩, (foreground args).run)
      (⟨⟨t, false⟩, job.group⟩, .done (.error (.resume fg.name e))) := h.trans (hresume.run_bind _)
  exact hforeground.run_bind fun _ => pure Flow.proceed

/-- Whatever the hand-over, the signal to the job's group and the wait are replied: when `fg` returns, the terminal is
not the interpreter's own exactly if the job has got it and could not be continued for another reason than that it has
no processes any more. -/
theorem terminal_left_iff (hnamed : fg.Names args t id job) (hgroup : job.group ≠ own) (owner : Pid)
    (r : Except Failure Flow) :
    (∃ k, Prog.Reaches (surroundings own) (⟨⟨t, false⟩, own⟩, (fg.run args).run) (k, .done r) ∧
      k.owner = owner ∧ owner ≠ own) ↔ owner = job.group ∧ ∃ e, e ≠ .noProcess ∧ r = .error (.resume fg.name e) := by
  constructor
  · rintro ⟨k, h, rfl, hne⟩
    have hends : (fg.run args).run.Ensures (contract own) (fun r k' => k'.owner = own ∨ LeftWith args t k'.owner r)
        ⟨⟨t, false⟩, own⟩ := ensures_proceed_of (ensures_foreground_terminal args)
    obtain ⟨id', job', e, ⟨hid', hjob'⟩, howner, he, hr⟩ :=
      (Prog.Ensures.ends (W := surroundings own) (fun hd => hd.elim) hends h).resolve_left hne
    obtain rfl : id' = id := Except.ok.inj (hid'.symm.trans hnamed.1)
    obtain rfl : job' = job := Option.some.inj (hjob'.symm.trans hnamed.2)
    exact ⟨howner, e, he, hr⟩
  · rintro ⟨rfl, e, he, rfl⟩
    exact ⟨_, reaches_left hnamed own he, rfl, hgroup⟩

/-! ### A job that may not be continued -/

def deniedJob : Job := ⟨1, 72, 71, ['a']⟩

/-- The terminal stays with the job if the job may not be continued, and not if `fg` goes well. -/
theorem terminal_left_iff_denied :
    (∃ k, Prog.Reaches (surroundings 50) (⟨⟨⟨[deniedJob], 1⟩, false⟩, 50⟩, (fg.run ["%1".toList]).run)
      (k, .done (.error (.resume fg.name .notPermitted))) ∧ k.owner = 71 ∧ (71 : Pid) ≠ 50) ∧
    ¬ ∃ k, Prog.Reaches (surroundings 50) (⟨⟨⟨[deniedJob], 1⟩, false⟩, 50⟩, (fg.run ["%1".toList]).run)
      (k, .done (.ok .proceed)) ∧ k.owner = 71 ∧ (71 : Pid) ≠ 50 := by
  have hnamed : fg.Names ["%1".toList] ⟨[deniedJob], 1⟩ 1 deniedJob := ⟨rfl, rfl⟩
  have hgroup : deniedJob.group ≠ 50 := by decide
  refine ⟨(terminal_left_iff hnamed hgroup 71 _).mpr ⟨rfl, .notPermitted, by decide, rfl⟩, fun h => ?_⟩
  obtain ⟨-, e, -, he⟩ := (terminal_left_iff hnamed hgroup 71 _).mp h
  cases he

/-- Not every `fg` that returns has left the terminal to the interpreter, which would have got it if it had asked. -/
theorem reaches_terminal_left : ¬ ∀ (k : Console) (r : Except Failure Flow),
    Prog.Reaches (surroundings 50) (⟨⟨⟨[deniedJob], 1⟩, false⟩, 50⟩, (fg.run ["%1".toList]).run) (k, .done r) →
      k.owner = 50 := by
  intro h
  have hnamed : fg.Names ["%1".toList] ⟨[deniedJob], 1⟩ 1 deniedJob := ⟨rfl, rfl⟩
  have hreached := reaches_left hnamed 50 (e := .notPermitted) (by decide)
  exact absurd (h _ _ hreached) (by decide)

end JobShell.Builtin
