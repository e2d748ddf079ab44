import JobShell.Proofs.Estate.Spawning

/-! # Failures that leave nothing behind

The classified failures come up at different places: before a line is looked at as a command, before a launch has forked
anything or in the middle of it, and in a builtin before it has done anything. In each case the estate is then what it
could have become without the line. -/

namespace JobShell.Estate
open Children (Ending Phase)

variable {reaper : Prop} {s s' : State} {k k' k'' : State × List Noted} {α β : Type}

/-! ### The table while the interpreter has it -/

/-- While the interpreter has the table, nobody changes it, and all else happens as it would without that. -/
theorem drifts_unheld (hheld : s.held = false) (h : (world reaper).Drifts { s with held := true } s') :
    (world reaper).Drifts s { s' with table := s.table, held := false } := by
  suffices hall : ∀ t, (world reaper).Drifts { s with held := true } t →
      t.table = s.table ∧ (world reaper).Drifts s { t with held := false } by
    obtain ⟨htable, hd⟩ := hall s' h
    rwa [← htable]
  intro t ht
  induction ht with
  | refl =>
    refine ⟨rfl, ?_⟩
    rw [← hheld]
  | @tail t t' ht hd ih =>
    obtain ⟨htable, ih⟩ := ih
    have hheld : t.held = true := drifts_held ht
    cases hd with
    | ends e hp => exact ⟨htable, ih.tail (.ends e hp)⟩
    | reaps hr hp => exact ⟨htable, ih.tail (.reaps hr hp)⟩
    | calms hc =>
      obtain ⟨n, hn, rfl⟩ := hc
      exact ⟨htable, ih.tail (.calms ⟨n, hn, rfl⟩)⟩
    | removes pid hr hh =>
      rw [hheld] at hh
      cases hh

/-! ### What is left of an action -/

/-- Nothing is left: the estate could have become what it is without any call, and no child that was forked is there. -/
def Undone (reaper : Prop) (k k' : State × List Noted) : Prop :=
  (world reaper).Drifts k.1 k'.1 ∧ ∃ new, k'.2 = k.2 ++ new ∧ ∀ pid, .forked pid ∈ new → k'.1.children pid = none

/-- The interpreter does not have the table, and the notes have grown at most. -/
def Goes (k k' : State × List Noted) : Prop := k'.1.held = false ∧ ∃ new, k'.2 = k.2 ++ new

theorem Undone.of_drifts (h : (world reaper).Drifts k.1 s) : Undone reaper k (s, k.2) :=
  ⟨h, [], (List.append_nil _).symm, by simp⟩

theorem Undone.goes (h : Undone reaper k k') (hk : k.1.held = false) : Goes k k' :=
  ⟨(drifts_held h.1).trans hk, h.2.imp fun _ hnew => hnew.1⟩

/-- What was undone while the interpreter had the table is undone when it has given the table back as it was. -/
theorem Undone.unheld (hk : k.1.held = false) (hs : (world reaper).Drifts k.1 s)
    (h : Undone reaper ({ s with held := true }, k.2) k') (hs' : (world reaper).Drifts k'.1 s') :
    Undone reaper k ({ s' with table := s.table, held := false }, k'.2) := by
  obtain ⟨hd, new, hnew, hgone⟩ := h
  have hheld : s.held = false := (drifts_held hs).trans hk
  refine ⟨hs.trans (drifts_unheld hheld (hd.trans hs')), new, hnew, fun pid hpid => ?_⟩
  have hchildless : s'.children pid = none := drifts_childless hs' (hgone pid hpid)
  exact hchildless

theorem Goes.refl (hk : k.1.held = false) : Goes k k := ⟨hk, [], (List.append_nil _).symm⟩

theorem Goes.trans (h : Goes k k') (h' : Goes k' k'') : Goes k k'' := by
  obtain ⟨-, new, hnew⟩ := h
  obtain ⟨hheld, new', hnew'⟩ := h'
  exact ⟨hheld, new ++ new', by rw [hnew', hnew, List.append_assoc]⟩

/-- How an action ends: nothing is left of it if it fails with a classified failure. -/
structure Settled (reaper : Prop) (k : State × List Noted) (r : Except Failure α) (k' : State × List Noted) : Prop where
  goes : Goes k k'
  undone : ∀ f, r = .error f → f.isClassified = true → Undone reaper k k'

theorem Settled.map {r : Except Failure α} (h : Settled reaper k r k') (f : α → β) : Settled reaper k (r.map f) k' :=
  ⟨h.goes, fun e he => h.undone e (by cases r <;> cases he; rfl)⟩

/-- How an action ends that does not fail with a classified failure, so that it may leave what it likes. -/
structure Onward (k : State × List Noted) (r : Except Failure α) (k' : State × List Noted) : Prop where
  goes : Goes k k'
  unclassified : ∀ f, r = .error f → f.isClassified = false

theorem Onward.ok (h : Goes k k') (a : α) : Onward k (.ok a) k' :=
  ⟨h, fun _ he => by cases he⟩

theorem Onward.error {f : Failure} (h : Goes k k') (hf : f.isClassified = false) :
    Onward k (.error f : Except Failure α) k' :=
  ⟨h, fun _ he => by cases he; exact hf⟩

theorem Onward.unclassified_error {f : Failure} (h : Onward k (.error f : Except Failure α) k') :
    f.isClassified = false :=
  h.unclassified f rfl

theorem Onward.settled {r : Except Failure α} (h : Onward k r k') : Settled reaper k r k' :=
  ⟨h.goes, fun f hf hc => absurd (h.unclassified f hf) (by rw [hc]; exact Bool.false_ne_true.symm)⟩

theorem Undone.settled {r : Except Failure α} (h : Undone reaper k k') (hk : k.1.held = false) :
    Settled reaper k r k' :=
  ⟨h.goes hk, fun _ _ _ => h⟩

/-- Behind an action that has not failed, nothing may fail with a classified failure. -/
theorem ensures_bind_settled {x : Action α} {f : α → Action β}
    (hx : x.run.Ensures (contract reaper) (Settled reaper k) k)
    (hf : ∀ a k', Goes k k' → (f a).run.Ensures (contract reaper) (Onward k') k') :
    (x >>= f).run.Ensures (contract reaper) (Settled reaper k) k := by
  refine Prog.ensures_run_bind (hx.mono ?_)
  rintro (f' | a) k₁ h₁
  · exact ⟨h₁.goes, fun _ he => h₁.undone _ (by cases he; rfl)⟩
  · exact (hf a k₁ h₁.goes).mono fun r k₂ h₂ => Onward.settled ⟨h₁.goes.trans h₂.goes, h₂.unclassified⟩

theorem ensures_bind_onward {x : Action α} {f : α → Action β} (hx : x.run.Ensures (contract reaper) (Onward k) k)
    (hf : ∀ a k', Goes k k' → (f a).run.Ensures (contract reaper) (Onward k') k') :
    (x >>= f).run.Ensures (contract reaper) (Onward k) k := by
  refine Prog.ensures_run_bind (hx.mono ?_)
  rintro (f' | a) k₁ h₁
  · exact .error h₁.goes h₁.unclassified_error
  · exact (hf a k₁ h₁.goes).mono fun r k₂ h₂ => ⟨h₁.goes.trans h₂.goes, h₂.unclassified⟩

theorem ensures_lift_onward {p : Prog α} (hp : p.Ensures (contract reaper) (fun _ k' => Goes k k') k) :
    (ExceptT.lift p : Action α).run.Ensures (contract reaper) (Onward k) k :=
  Prog.ensures_bind (hp.mono fun a _ h => Prog.ensures_pure (.ok h a))

/-! ### Calls that leave what they like -/

theorem pre_print {text : Text} {P : Except Errno Unit → State × List Noted → Prop} (hk : k.1.held = false)
    (h : ∀ r s', s'.held = false → P r (s', k.2 ++ (note (.print text) r).toList)) :
    (contract reaper).pre (.print text) P k := by
  refine Surroundings.noting_pre fun s hs => ⟨⟨s, .ok (), _, .refl, rfl⟩, fun r s' ha => ⟨s', .refl, h r s' ?_⟩⟩
  have hheld : s.held = false := (drifts_held hs).trans hk
  cases r with
  | ok _ =>
    obtain rfl := ha
    exact hheld
  | error e =>
    obtain ⟨part, -, rfl⟩ := ha
    exact hheld

theorem pre_changeDirectory {path : Bytes} {P : Except Errno Unit → State × List Noted → Prop} (hk : k.1.held = false)
    (h : ∀ r k', Goes k k' → P r k') : (contract reaper).pre (.changeDirectory path) P k := by
  refine Surroundings.noting_pre fun s hs => ⟨⟨s, .ok (), _, .refl, s.directory, rfl⟩, fun r s' ha =>
    ⟨s', .refl, h r _ ⟨?_, _, rfl⟩⟩⟩
  have hheld : s.held = false := (drifts_held hs).trans hk
  cases r with
  | ok _ =>
    obtain ⟨directory, rfl⟩ := ha
    exact hheld
  | error e =>
    obtain rfl := ha
    exact hheld

theorem ensures_waitFor_onward (hk : k.1.held = false) (pid : Pid) :
    (waitFor pid).Ensures (contract reaper) (Onward k) k := by
  refine (ensures_waitFor pid k).mono ?_
  rintro _ _ ⟨s, hs, @⟨q, e, -, -⟩ | -⟩
  · have hgoes : Goes k (s.set q none, k.2 ++ [.collected q e]) :=
      ⟨(drifts_held hs).trans hk, _, rfl⟩
    rw [Ending.waited]
    cases e.status? with
    | some status => exact .ok hgoes _
    | none => exact .error hgoes rfl
  · have hgoes : Goes k (s, k.2) := ⟨(drifts_held hs).trans hk, [], (List.append_nil _).symm⟩
    exact .ok hgoes none

theorem ensures_waitAll_onward (hk : k.1.held = false) (pids : List Pid) :
    (waitAll pids).Ensures (contract reaper) (Onward k) k := by
  induction pids generalizing k with
  | nil => exact Prog.ensures_pure (.ok (.refl hk) [])
  | cons pid pids ih =>
    refine Prog.ensures_bind ((ensures_waitFor_onward hk pid).mono ?_)
    rintro (f | status) k₁ h₁
    · exact Prog.ensures_pure (.error h₁.goes h₁.unclassified_error)
    · refine Prog.ensures_bind ((ih h₁.goes.1).mono ?_)
      rintro (f | statuses) k₂ h₂
      · exact Prog.ensures_pure (.error (h₁.goes.trans h₂.goes) h₂.unclassified_error)
      · exact Prog.ensures_pure (.ok (h₁.goes.trans h₂.goes) _)

/-- The table is looked at and given back. -/
theorem ensures_look (hk : k.1.held = false) (f : JobTable → α) : (Registry.look f).Ensures (contract reaper)
    (fun _ k' => Undone reaper k k') k :=
  ensures_look_of (pre_acquire hk fun _ hs => pre_release rfl fun _ hs₁ => Undone.unheld hk hs (.of_drifts .refl) hs₁)

theorem ensures_remove_goes (hk : k.1.held = false) (pid : Pid) : (Registry.remove pid).Ensures (contract reaper)
    (fun _ k' => Goes k k') k :=
  ensures_remove_of (pre_acquire hk fun _ _ => pre_release rfl fun _ _ => ⟨rfl, [], (List.append_nil _).symm⟩)

/-! ### Launching -/

/-- A pipe or a process was refused. -/
def Refused (f : Failure) (k k' : State × List Noted) : Prop := ∃ new, k'.2 = k.2 ++ new ∧ .refused f ∈ new

theorem ensures_spawn_undone (grouped : Bool) (stages : List Invocation) (k : State × List Noted) :
    (Launch.spawn grouped stages).Ensures (contract reaper) (fun r k' => match r with
      | .ok pids => pids.length = stages.length ∧ k'.1.held = k.1.held ∧ ∃ new, k'.2 = k.2 ++ new
      | .error f => Undone reaper k k' ∧ Refused f k k') k := by
  refine (ensures_spawn grouped stages k).mono ?_
  rintro (f | pids) k' h
  · obtain ⟨made, pids, notes, hmade, habandon, hn, hd, hgone⟩ := h
    refine ⟨⟨hd, _, hn, fun pid hpid => ?_⟩, _, hn, List.mem_append_left _ hmade.refused_mem⟩
    exact hgone pid (hmade.mem_of_forked ((List.mem_append.mp hpid).resolve_right habandon.not_forked))
  · obtain ⟨made, hmade, hn, h, -⟩ := h
    exact ⟨hmade.length, congrArg Own.held h.own, made, hn⟩

/-- A launch in the background fails only if a call is refused, and nothing is left of it then. -/
theorem ensures_background (hk : k.1.held = false) (text : Text) {stages : List Invocation} (hne : stages ≠ []) :
    (Launch.background text stages).Ensures (contract reaper) (fun r k' => match r with
      | .ok launched => Goes k k' ∧ launched.last? = none
      | .error f => Undone reaper k k' ∧ Refused f k k') k := by
  refine Prog.ensures_perform (pre_acquire hk fun s hs => ?_)
  refine Prog.ensures_bind ((ensures_spawn_undone true stages ({ s with held := true }, k.2)).mono ?_)
  rintro (f | _ | ⟨first, rest⟩) k₁ h₁
  · obtain ⟨hundone, hrefused⟩ := h₁
    have hheld : k₁.1.held = true := drifts_held hundone.1
    exact Prog.ensures_perform (pre_release hheld fun s₂ hs₂ => ⟨hundone.unheld hk hs hs₂, hrefused⟩)
  · -- There are stages, so there is a process.
    exact absurd (List.eq_nil_of_length_eq_zero h₁.1.symm) hne
  · obtain ⟨-, hheld, hnew⟩ := h₁
    exact Prog.ensures_perform (pre_release hheld fun _ _ => ⟨⟨rfl, hnew⟩, rfl⟩)

theorem ensures_foreground_settled (hk : k.1.held = false) (stages : List Invocation) :
    (Launch.foreground stages).Ensures (contract reaper) (Settled reaper k) k := by
  refine Prog.ensures_bind ((ensures_spawn_undone false stages k).mono ?_)
  rintro (f | pids) k₁ h₁
  · exact Prog.ensures_pure (h₁.1.settled hk)
  · obtain ⟨-, hheld, hnew⟩ := h₁
    have hgoes : Goes k k₁ := ⟨hheld.trans hk, hnew⟩
    refine Prog.ensures_bind ((ensures_waitAll_onward hgoes.1 pids).mono ?_)
    rintro (f | statuses) k₂ h₂
    · exact Prog.ensures_pure (Onward.error (hgoes.trans h₂.goes) h₂.unclassified_error).settled
    · exact Prog.ensures_pure (Onward.ok (hgoes.trans h₂.goes) _).settled

theorem ensures_launch_settled (hk : k.1.held = false) (p : Pipeline) :
    (launch p).Ensures (contract reaper) (Settled reaper k) k := by
  refine Launch.ensures_launch_of (fun _ => ?_) (fun f _ => ?_) fun stages _ hne _ => ?_
  · exact (Undone.of_drifts .refl).settled hk
  · exact (Undone.of_drifts .refl).settled hk
  · split
    · refine (ensures_background hk p.text hne).mono ?_
      rintro (f | launched) k' h
      · exact h.1.settled hk
      · exact (Onward.ok h.1 launched).settled
    · exact ensures_foreground_settled hk stages

/-! ### Builtins -/

namespace Builtin
open JobShell.Builtin

/-- A line is not written only if the output is refused. -/
theorem ensures_printLine (hk : k.1.held = false) (line : Text) :
    (printLine line).run.Ensures (contract reaper) (fun r k' => Onward k r k' ∧
      ∀ f, r = .error f → ∃ new, k'.2 = k.2 ++ new ∧ .muted ∈ new) k := by
  refine Prog.ensures_perform (pre_print hk fun r s' hs' => ?_)
  rcases r with e | _
  · exact Prog.ensures_pure ⟨.error ⟨hs', _, rfl⟩ rfl, fun _ _ => ⟨_, rfl, List.mem_singleton_self _⟩⟩
  · exact Prog.ensures_pure ⟨.ok ⟨hs', _, rfl⟩ (), fun f he => by cases he⟩

theorem ensures_printLine_onward (hk : k.1.held = false) (line : Text) :
    (printLine line).run.Ensures (contract reaper) (Onward k) k :=
  (ensures_printLine hk line).mono fun _ _ h => h.1

theorem ensures_resume (hk : k.1.held = false) (b : Builtin) (group : Pid) :
    (b.resume group).run.Ensures (contract reaper) (Onward k) k := by
  refine Prog.ensures_perform (pre_quiet (c := .killGroup group Signal.resume.number) trivial fun r => ?_)
  have hk' : Goes k (k.1, k.2 ++ (note (.killGroup group Signal.resume.number) r).toList) := ⟨hk, _, rfl⟩
  rcases r with e | _
  · by_cases he : e = .noProcess <;> simp only [he, if_true, if_false]
    · exact Prog.ensures_pure (.ok hk' ())
    · exact Prog.ensures_pure (.error hk' rfl)
  · exact Prog.ensures_pure (.ok hk' ())

theorem ensures_findJob (hk : k.1.held = false) (b : Builtin) (args : List Text) :
    (b.findJob args).run.Ensures (contract reaper) (Settled reaper k) k := by
  refine ensures_findJob_of (fun f _ => (Undone.of_drifts .refl).settled hk) fun id _ => (ensures_look hk _).mono ?_
  rintro (_ | job) k' h
  · exact h.settled hk
  · exact h.settled hk

theorem ensures_changeDirectory (hk : k.1.held = false) (args : List Text) :
    (changeDirectory args).run.Ensures (contract reaper) (Settled reaper k) k := by
  refine ensures_changeDirectory_of (fun f _ => (Undone.of_drifts .refl).settled hk) fun path _ =>
    pre_changeDirectory hk fun r k' hk' => ?_
  rcases r with e | _
  · exact (Onward.error hk' rfl).settled
  · exact (Onward.ok hk' ()).settled

theorem ensures_listJobs (hk : k.1.held = false) : listJobs.run.Ensures (contract reaper) (Onward k) k := by
  refine ensures_bind_onward (ensures_lift_onward ((ensures_look hk _).mono fun _ _ h => h.goes hk)) fun jobs k₁ h₁ => ?_
  have hk₁ := h₁.1
  clear h₁
  induction jobs generalizing k₁ with
  | nil => exact Prog.ensures_pure (.ok (.refl hk₁) ())
  | cons job jobs ih => exact ensures_bind_onward (ensures_printLine_onward hk₁ _) fun _ k₂ h₂ => ih k₂ h₂.1

theorem ensures_foreground (hk : k.1.held = false) (args : List Text) :
    (foreground args).run.Ensures (contract reaper) (Settled reaper k) k := by
  refine ensures_bind_settled (ensures_findJob hk _ _) fun job k₁ h₁ => ?_
  refine ensures_bind_onward (ensures_printLine_onward h₁.1 _) fun _ k₂ h₂ => ?_
  refine Prog.ensures_lift_bind (Prog.ensures_call (ignores_terminal.isTerminal _ fun terminal => ?_))
  refine ensures_ite_lift_of terminal (ignores_terminal.ensures_setForeground _) ?_
  refine ensures_bind_onward (ensures_resume h₂.1 _ _) fun _ k₃ h₃ => ?_
  refine Prog.ensures_lift_bind ((ensures_waitFor_onward h₃.1 job.pid).mono fun r k₄ h₄ => ?_)
  refine ensures_ite_lift_of terminal ignores_terminal.ensures_reclaim ?_
  refine Prog.ensures_lift_bind ((ensures_remove_goes h₄.goes.1 job.pid).mono fun _ k₅ h₅ => ?_)
  cases r with
  | ok answer => exact .ok (h₄.goes.trans h₅) ()
  | error f => exact .error (h₄.goes.trans h₅) h₄.unclassified_error

/-- All builtins but `exit` go on to the next line, if they do not fail. -/
theorem ensures_run (hk : k.1.held = false) (b : Builtin) (args : List Text) :
    (b.run args).run.Ensures (contract reaper) (fun r k' => Settled reaper k r k' ∧
      (b ≠ .exit → ∀ flow, r = .ok flow → flow = .proceed)) k := by
  have proceeds : ∀ {x : Action Unit}, x.run.Ensures (contract reaper) (Settled reaper k) k →
      (x >>= fun _ => pure .proceed : Action Flow).run.Ensures (contract reaper) (fun r k' => Settled reaper k r k' ∧
        (b ≠ .exit → ∀ flow, r = .ok flow → flow = .proceed)) k := fun hx =>
    ensures_proceed_of (hx.mono fun r _ h => ⟨h.map _, fun _ flow hr => by cases r <;> cases hr; rfl⟩)
  cases b with
  | exit => exact Prog.ensures_pure ⟨(Undone.of_drifts .refl).settled hk, fun hb => absurd rfl hb⟩
  | cd => exact proceeds (ensures_changeDirectory hk args)
  | jobs => exact proceeds ((ensures_listJobs hk).mono fun _ _ h => h.settled)
  | fg => exact proceeds (ensures_foreground hk args)
  | bg => exact proceeds (ensures_bind_settled (ensures_findJob hk _ _) fun job k' h => ensures_resume h.1 _ _)

end Builtin

/-! ### Lines -/

theorem ensures_launchLine (hk : k.1.held = false) (p : Pipeline) :
    (Shell.launchLine p).run.Ensures (contract reaper) (Settled reaper k) k := by
  refine ensures_bind_settled (ensures_launch_settled hk p) fun launched k' h => ?_
  cases launched with
  | foreground statuses => exact Prog.ensures_pure (.ok (.refl h.1) _)
  | background job =>
    exact ensures_bind_onward (Builtin.ensures_printLine_onward h.1 _) fun _ _ h' =>
      Prog.ensures_pure (.ok (.refl h'.1) _)

theorem ensures_eval_settled (hk : k.1.held = false) (shell : Shell) (line : Text) :
    (shell.eval line).Ensures (contract reaper) (fun r k' => Settled reaper k r.1 k' ∧
      ∀ f, r.1 = .error f → r.2 = { shell with status := 1 }) k := by
  have failed : ∀ (r : Except Failure (Flow × Option Status)) f, r.map (·.1) = .error f →
      ({ shell with status := Shell.statusAfter r } : Shell) = { shell with status := 1 } := by
    intro r f hr
    cases r with
    | ok _ => cases hr
    | error _ => rfl
  suffices hobey : (Shell.obey shell.limits line).run.Ensures (contract reaper) (Settled reaper k) k from
    Shell.ensures_eval_of (hobey.mono fun r _ h => ⟨h.map _, failed r⟩)
  refine Shell.ensures_obey_of (fun f _ => ?_) (fun p _ _ => ?_) (fun p b args _ _ => ?_) fun p _ _ _ => ?_
  · exact (Undone.of_drifts .refl).settled hk
  · exact (Undone.of_drifts .refl).settled hk
  · exact (Builtin.ensures_run hk b args).mono fun _ _ h => h.1.map _
  · exact (ensures_launchLine hk p).mono fun _ _ h => h.map _

/-- Evaluates lines one after the other, whatever they come to. -/
def evalAll (shell : Shell) : List Text → Prog (List (Except Failure Flow) × Shell)
  | [] => return ([], shell)
  | line :: lines => do
    let (result, shell) ← shell.eval line
    let (results, shell) ← evalAll shell lines
    return (result :: results, shell)

/-- The status is set anew by each line. -/
theorem evalAll_status (shell : Shell) (status : Int) {lines : List Text} (hlines : lines ≠ []) :
    evalAll { shell with status } lines = evalAll shell lines := by
  cases lines with
  | nil => exact absurd rfl hlines
  | cons line lines => rfl

/-- With or without a reaper, whichever calls are refused: every line comes to an end. If it has failed with a classified
failure, the status is 1, and no child is left that the line has forked. The state is one that could have come about
without the line; so the directory, the descriptors, the output and the last id of the table are as before, and without a
reaper the whole table is. Whatever later lines can come to, they could have come to if there had been no such line. -/
theorem classified_leaves_nothing (reaper : Prop) {s : State} (hs : s.held = false) (notes : List Noted) (shell : Shell)
    (line : Text) : Prog.Concludes (noted reaper) (fun r k' => ∀ f, r.1 = .error f → f.isClassified = true →
      r.2 = { shell with status := 1 } ∧ (world reaper).Drifts s k'.1 ∧ k'.1.toOwn = s.toOwn ∧
      k'.1.table.lastId = s.table.lastId ∧ (¬ reaper → k'.1.table = s.table) ∧
      (∃ new, k'.2 = notes ++ new ∧ ∀ pid, .forked pid ∈ new → k'.1.children pid = none) ∧
      ∀ (later : List Text) y, later ≠ [] → Prog.Reaches (noted reaper) (k', evalAll r.2 later) y →
        Prog.Reaches (noted reaper) ((s, k'.2), evalAll shell later) y) (s, notes) (shell.eval line) := by
  refine ((halts_eval shell line (s, notes)).concludes .refl (ensures_eval_settled hs shell line)).mono ?_
  rintro ⟨r, shell'⟩ k' ⟨k₁, hk, hsettled, hstatus⟩ f rfl hf
  obtain ⟨hd, hn⟩ := Surroundings.noting_drifts_iff.mp hk
  obtain ⟨hd₁, new, hnew, hgone⟩ := hsettled.undone f rfl hf
  obtain rfl : shell' = { shell with status := 1 } := hstatus f rfl
  have hdrifts : (world reaper).Drifts s k'.1 := hd₁.trans hd
  have hnoted : (noted reaper).Drifts (s, k'.2) k' := Surroundings.noting_drifts_iff.mpr ⟨hdrifts, rfl⟩
  refine ⟨rfl, hdrifts, drifts_own hdrifts, drifts_lastId hdrifts, drifts_table hdrifts, ⟨new, hn.trans hnew, ?_⟩,
    fun later y hlater hy => ?_⟩
  · exact fun pid hpid => drifts_childless hd (hgone pid hpid)
  rw [evalAll_status shell 1 hlater] at hy
  exact (Prog.reaches_of_drifts hnoted _).trans hy

/-! ### A job of two stages, the second of which cannot be forked -/

def halfLaunched : Text := ['a', '|', 'b', '&']

/-- There is a job already, whose leader is still running. -/
def oneJob : State where
  descriptors := fun _ => none
  held := false
  directory := 0
  output := []
  environment := []
  children := Function.update (fun _ => none) 70 (some .running)
  table := ⟨[⟨1, 70, 70, ['c']⟩], 1⟩
  disturbances := 0

def failingShell : Shell := ⟨⟨10, 63⟩, 3⟩

theorem reaches_halfLaunched : ∃ s, Prog.Reaches (noted False) ((oneJob, []), failingShell.eval halfLaunched)
    ((s, [.pipe, .forked 71, .refused (.fork .tryAgain), .killed 71 9, .collected 71 (.exited 0)]),
      .done (.error (.fork .tryAgain), { failingShell with status := 1 })) := by
  have h : Prog.Reaches (noted False) ((oneJob, []), failingShell.eval halfLaunched) _ := .refl
  replace h := h.tail (step_call .acquireJobs oneJob.table ⟨rfl, rfl, rfl⟩)
  replace h := h.tail (step_call .pipe (.ok (3, 4)) ⟨by decide, rfl, rfl, 0, rfl⟩)
  replace h := h.tail (step_call .fork (.ok (.parent 71)) ⟨by decide, rfl, rfl⟩)
  replace h := h.tail (step_call (.setGroup 71 71) (.ok ()) fun _ => rfl)
  replace h := h.tail (step_call (.close 4) (.ok ()) rfl)
  replace h := h.tail (step_call .fork (.error .tryAgain) rfl)
  replace h := h.tail (step_call (.close 3) (.ok ()) rfl)
  replace h := h.tail (step_call (.kill 71 9) (.ok ()) fun _ => rfl)
  replace h := h.tail (step_drift (@Drift.ends _ _ 71 (.exited 0) rfl))
  replace h := h.tail .unroll
  replace h := h.tail (step_call (.wait 71 true) (.ok (.exited 71 0))
    (.inl ⟨71, .exited 0, fun _ => rfl, rfl, ⟨rfl, rfl⟩, rfl⟩))
  replace h := h.tail (step_call (.releaseJobs oneJob.table) () ⟨rfl, rfl⟩)
  exact ⟨_, h⟩

theorem classified_leaves_nothing_halfLaunched : ∃ s notes, oneJob.held = false ∧
    Prog.Reaches (noted False) ((oneJob, []), failingShell.eval halfLaunched)
      ((s, notes), .done (.error (.fork .tryAgain), { failingShell with status := 1 })) ∧
    .forked 71 ∈ notes ∧ s.children 71 = none ∧ s.toOwn = oneJob.toOwn ∧ s.table = oneJob.table := by
  obtain ⟨s, hrun⟩ := reaches_halfLaunched
  obtain ⟨-, -, hown, -, htable, ⟨new, hnew, hgone⟩, -⟩ :=
    (classified_leaves_nothing False rfl [] failingShell halfLaunched).ends hrun _ rfl rfl
  have hforked : .forked 71 ∈ new := by
    rw [← hnew.trans (List.nil_append new)]
    simp
  exact ⟨s, _, rfl, hrun, by simp, hgone 71 hforked, hown, htable not_false⟩

end JobShell.Estate
