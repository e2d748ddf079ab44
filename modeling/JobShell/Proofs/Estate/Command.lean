import JobShell.CommandLine
import JobShell.Proofs.Estate.Failing
import JobShell.Proofs.Estate.Foreground
import JobShell.Proofs.Session.Texts

/-! # The exit code of a command

A command is a session over a text, in a process without a reaper. Its exit code comes from one of two sources: the code
that a line asks for, or else the status that the last line has left. It comes from neither if a message about a failure
is refused, or what was printed cannot be written out. -/

namespace JobShell.Estate
open Children (Ending SignalNumber)

variable {k k' k'' : State × List Noted} {limits : Limits} {line : Text}

/-! ### What a line comes to -/

/-- The result of a line and the status behind it, by what the line asks for and by the notes of its calls. -/
inductive Outcome (limits : Limits) (line : Text) (new : List Noted) : Except Failure Flow → Int → Prop
  | unreadable {f : Failure} (hp : Pipeline.parse limits line = .error f) : Outcome limits line new (.error f) 1
  | nothing {p : Pipeline} (hp : Pipeline.parse limits line = .ok p) (hempty : p.stages = []) :
      Outcome limits line new (.ok .proceed) 0
  | exits {p : Pipeline} {args : List Text} {code : Int} (hp : Pipeline.parse limits line = .ok p)
      (hc : p.command = .builtin .exit args) (h : Builtin.exitCode args = .ok code) :
      Outcome limits line new (.ok (.exit code)) 0
  | stays {p : Pipeline} {args : List Text} {f : Failure} (hp : Pipeline.parse limits line = .ok p)
      (hc : p.command = .builtin .exit args) (h : Builtin.exitCode args = .error f) :
      Outcome limits line new (.error f) 1
  | builtin {p : Pipeline} {b : Builtin} {args : List Text} (hp : Pipeline.parse limits line = .ok p)
      (hc : p.command = .builtin b args) (hb : b ≠ .exit) : Outcome limits line new (.ok .proceed) 0
  | builtinFailed {p : Pipeline} {b : Builtin} {args : List Text} {f : Failure}
      (hp : Pipeline.parse limits line = .ok p) (hc : p.command = .builtin b args) (hb : b ≠ .exit) :
      Outcome limits line new (.error f) 1
  | background {p : Pipeline} (hp : Pipeline.parse limits line = .ok p) (hc : p.command = .external p)
      (hne : p.stages ≠ []) (hb : p.background = true) : Outcome limits line new (.ok .proceed) 0
  | exited {p : Pipeline} {ends : List (Pid × Ending)} {statuses : List Status} {pid : Pid} {code : Int}
      (hp : Pipeline.parse limits line = .ok p) (hc : p.command = .external p) (hb : p.background = false)
      (htold : Told p.stages.length new ends statuses) (hlast : ends.getLast? = some (pid, .exited code)) :
      Outcome limits line new (.ok .proceed) code
  | killed {p : Pipeline} {ends : List (Pid × Ending)} {statuses : List Status} {pid : Pid} {n : SignalNumber}
      (hp : Pipeline.parse limits line = .ok p) (hc : p.command = .external p) (hb : p.background = false)
      (htold : Told p.stages.length new ends statuses) (hlast : ends.getLast? = some (pid, .signaled n)) :
      Outcome limits line new (.ok .proceed) (128 + n.val)
  /-- A launch fails only if a text has a zero, a call was refused, or a stage was ended by a signal without a name. -/
  | unlaunched {p : Pipeline} {f : Failure} (hp : Pipeline.parse limits line = .ok p) (hc : p.command = .external p)
      (hne : p.stages ≠ [])
      (h : p.stages.mapM Invocation.ofStage = .error f ∨ ¬ Smooth new ∨ .muted ∈ new) :
      Outcome limits line new (.error f) 1

/-- The estate behind a line, and the notes that the line has added. -/
def LineEnds (limits : Limits) (line : Text) (k : State × List Noted) (r : Except Failure Flow) (status : Int)
    (k' : State × List Noted) : Prop :=
  k'.1.held = false ∧ ∃ new, k'.2 = k.2 ++ new ∧ Outcome limits line new r status

theorem LineEnds.of_nothing (hk : k.1.held = false) {r : Except Failure Flow} {status : Int}
    (h : Outcome limits line [] r status) : LineEnds limits line k r status k :=
  ⟨hk, [], (List.append_nil _).symm, h⟩

/-- What a launched line must come to. -/
def LaunchEnds (limits : Limits) (line : Text) (k : State × List Noted) (r : Except Failure (Option Status))
    (k' : State × List Noted) : Prop :=
  LineEnds limits line k (r.map fun _ => .proceed) (Shell.statusAfter (r.map (Flow.proceed, ·))) k'

variable {p : Pipeline}

theorem ensures_launchLine_background (hp : Pipeline.parse limits line = .ok p) (hc : p.command = .external p)
    (hne : p.stages ≠ []) (hb : p.background = true) (hk : k.1.held = false) :
    (Shell.launchLine p).run.Ensures (contract False) (LaunchEnds limits line k) k := by
  have proceeds : ∀ {k₁}, Goes k k₁ → (pure none : Action (Option Status)).run.Ensures (contract False)
      (LaunchEnds limits line k) k₁ := fun h₁ =>
    Prog.ensures_pure ⟨h₁.1, h₁.2.imp fun _ hnew => ⟨hnew, .background hp hc hne hb⟩⟩
  refine Prog.ensures_run_bind (Launch.ensures_launch_of (fun h => absurd h hne) (fun f hf => ?_)
    fun stages _ hstages _ => ?_)
  · exact LineEnds.of_nothing hk (.unlaunched hp hc hne (.inl hf))
  rw [if_pos hb]
  refine (ensures_background hk p.text hstages).mono ?_
  rintro (f | statuses | job) k₁ h₁
  · obtain ⟨hundone, new, hnew, hrefused⟩ := h₁
    exact ⟨(hundone.goes hk).1, new, hnew, .unlaunched hp hc hne (.inr (.inl fun hs => hs.granted f hrefused))⟩
  · obtain ⟨hgoes, hlast⟩ := h₁
    show (pure (Launched.foreground statuses).last? : Action (Option Status)).run.Ensures _ _ _
    rw [hlast]
    exact proceeds hgoes
  · obtain ⟨hgoes, -⟩ := h₁
    refine Prog.ensures_run_bind ((Builtin.ensures_printLine hgoes.1 _).mono ?_)
    rintro (f | _) k₂ ⟨h₂, hmuted⟩
    · obtain ⟨new, hnew⟩ := hgoes.2
      obtain ⟨new', hnew', hmem⟩ := hmuted f rfl
      refine ⟨h₂.goes.1, new ++ new', by rw [hnew', hnew, List.append_assoc], ?_⟩
      exact .unlaunched hp hc hne (.inr (.inr (List.mem_append_right _ hmem)))
    · exact proceeds (hgoes.trans h₂.goes)

theorem ensures_launchLine_outcome (hp : Pipeline.parse limits line = .ok p) (hc : p.command = .external p)
    (hne : p.stages ≠ []) (hk : k.1.held = false) :
    (Shell.launchLine p).run.Ensures (contract False) (LaunchEnds limits line k) k := by
  cases hb : p.background with
  | true => exact ensures_launchLine_background hp hc hne hb hk
  | false =>
    cases hstages : p.stages.mapM Invocation.ofStage with
    | error f =>
      refine Prog.ensures_run_bind (Launch.ensures_launch_of (fun h => absurd h hne) (fun f' hf' => ?_) fun _ hs _ _ => ?_)
      · exact LineEnds.of_nothing hk (.unlaunched hp hc hne (.inl hf'))
      · rw [hstages] at hs
        cases hs
    | ok stages =>
      refine (ensures_launchLine_foreground not_false hb hne hstages k).mono ?_
      rintro r k' ⟨hown, new, hnew, ⟨f, rfl, hf⟩ | ⟨statuses, rfl, hs⟩⟩
      · exact ⟨(congrArg Own.held hown).trans hk, new, hnew, .unlaunched hp hc hne (.inr (.inl hf))⟩
      · have hnonempty : statuses ≠ [] := List.ne_nil_of_length_pos (hs.length ▸ List.length_pos_iff.mpr hne)
        have hlast := List.getLast?_eq_some_getLast hnonempty
        obtain ⟨ends, htold, -⟩ := hs.stages
        obtain ⟨pid, e, hend, hcode⟩ := htold.last hlast
        have houtcome : Outcome limits line new (.ok .proceed) (statuses.getLast hnonempty).code := by
          cases e with
          | exited code =>
            rw [hcode]
            exact .exited hp hc hb htold hend
          | signaled n =>
            rw [hcode]
            exact .killed hp hc hb htold hend
        rw [hlast]
        exact ⟨(congrArg Own.held hown).trans hk, new, hnew, houtcome⟩

theorem ensures_eval_outcome (hk : k.1.held = false) (shell : Shell) (line : Text) :
    (shell.eval line).Ensures (contract False) (fun r k' => LineEnds shell.limits line k r.1 r.2.status k') k := by
  suffices hobey : (Shell.obey shell.limits line).run.Ensures (contract False) (fun r k' =>
      LineEnds shell.limits line k (r.map (·.1)) (Shell.statusAfter r) k') k from
    Shell.ensures_eval_of hobey
  refine Shell.ensures_obey_of (fun f hp => ?_) (fun p hp hempty => ?_) (fun p b args hp hc => ?_) fun p hp hc hne => ?_
  · exact .of_nothing hk (.unreadable hp)
  · exact .of_nothing hk (.nothing hp hempty)
  · by_cases hb : b = .exit
    · subst hb
      show LineEnds _ _ _ ((((Builtin.exitCode args).map Flow.exit).map (·, none)).map (·.1)) _ _
      cases hcode : Builtin.exitCode args with
      | ok code => exact .of_nothing hk (.exits hp hc hcode)
      | error f => exact .of_nothing hk (.stays hp hc hcode)
    · refine (Builtin.ensures_run hk b args).mono ?_
      rintro (f | flow) k' ⟨h, hflow⟩
      · exact ⟨h.goes.1, h.goes.2.imp fun _ hnew => ⟨hnew, .builtinFailed hp hc hb⟩⟩
      · obtain rfl := hflow hb flow rfl
        exact ⟨h.goes.1, h.goes.2.imp fun _ hnew => ⟨hnew, .builtin hp hc hb⟩⟩
  · refine (ensures_launchLine_outcome hp hc hne hk).mono fun r k' h => ?_
    cases r <;> exact h

/-! ### From line to line -/

/-- What a session goes on with behind a line, or stops for, by the notes of its calls. -/
inductive Behind : Except Failure Flow → Except Stop Flow → List Noted → Prop
  | written {flow : Flow} : Behind (.ok flow) (.ok flow) []
  | said {f : Failure} : Behind (.error f) (.ok .proceed) []
  | unsaid {f : Failure} : Behind (.error f) (.error .panic) [.unreported]
  | unwritten {result : Except Failure Flow} {e : Errno} :
      Behind result (.error (.failure (.system e))) [.unflushed]

/-- What a session does behind a line, and comes to. -/
structure Settling (k : State × List Noted) (result : Except Failure Flow) (flow : Except Stop Flow)
    (k' : State × List Noted) : Prop where
  run : Prog.Reaches (noted False) (k, (Session.settle result).run) (k', .done flow)
  held : k'.1.held = false
  behind : ∃ new, k'.2 = k.2 ++ new ∧ Behind result flow new

/-- The lines of a command, each evaluated behind the one before, up to the first that ends the session: its answer, and
the shell and the estate behind them all. -/
inductive Carried : State × List Noted → Shell → List Text → Except Stop (Option Int) → Shell → State × List Noted → Prop
  | done {k k' : State × List Noted} {shell : Shell} (hd : (noted False).Drifts k k') :
      Carried k shell [] (.ok none) shell k'
  | exits {k k₁ k' : State × List Noted} {shell after : Shell} {line : Text} {lines : List Text}
      {result : Except Failure Flow} {code : Int}
      (hrun : Prog.Reaches (noted False) (k, shell.eval line) (k₁, .done (result, after)))
      (hline : LineEnds shell.limits line k result after.status k₁) (hexit : Settling k₁ result (.ok (.exit code)) k') :
      Carried k shell (line :: lines) (.ok (some code)) after k'
  | stops {k k₁ k' : State × List Noted} {shell after : Shell} {line : Text} {lines : List Text}
      {result : Except Failure Flow} {stop : Stop}
      (hrun : Prog.Reaches (noted False) (k, shell.eval line) (k₁, .done (result, after)))
      (hline : LineEnds shell.limits line k result after.status k₁) (hstop : Settling k₁ result (.error stop) k') :
      Carried k shell (line :: lines) (.error stop) after k'
  | next {k k₁ k₂ k' : State × List Noted} {shell after last : Shell} {line : Text} {lines : List Text}
      {result : Except Failure Flow} {r : Except Stop (Option Int)}
      (hrun : Prog.Reaches (noted False) (k, shell.eval line) (k₁, .done (result, after)))
      (hline : LineEnds shell.limits line k result after.status k₁) (hon : Settling k₁ result (.ok .proceed) k₂)
      (hrest : Carried k₂ after lines r last k') : Carried k shell (line :: lines) r last k'

theorem LineEnds.drifts {r : Except Failure Flow} {status : Int} (h : LineEnds limits line k r status k')
    (hd : (noted False).Drifts k' k'') : LineEnds limits line k r status k'' := by
  obtain ⟨hdrifts, hnotes⟩ := Surroundings.noting_drifts_iff.mp hd
  obtain ⟨hheld, new, hnew, h⟩ := h
  exact ⟨(drifts_held hdrifts).trans hheld, new, hnotes.trans hnew, h⟩

theorem Settling.drifts {result : Except Failure Flow} {flow : Except Stop Flow} (h : Settling k result flow k')
    (hd : (noted False).Drifts k' k'') : Settling k result flow k'' := by
  obtain ⟨hdrifts, hnotes⟩ := Surroundings.noting_drifts_iff.mp hd
  obtain ⟨hrun, hheld, new, hnew, hbehind⟩ := h
  exact ⟨hrun.trans (Prog.reaches_of_drifts hd _), (drifts_held hdrifts).trans hheld, new, hnotes.trans hnew, hbehind⟩

namespace Carried
variable {shell last : Shell} {lines : List Text} {r : Except Stop (Option Int)}

/-- What has happened before the first line belongs to its run. -/
theorem of_drifts (hd : (noted False).Drifts k k') (h : Carried k' shell lines r last k'') :
    Carried k shell lines r last k'' := by
  have hnotes : k'.2 = k.2 := (Surroundings.noting_drifts_iff.mp hd).2
  have starts : ∀ {line r status k''}, LineEnds shell.limits line k' r status k'' →
      LineEnds shell.limits line k r status k'' := fun h => by rwa [LineEnds, hnotes] at h
  cases h with
  | done hd' => exact .done (hd.trans hd')
  | exits hrun hline hexit => exact .exits ((Prog.reaches_of_drifts hd _).trans hrun) (starts hline) hexit
  | stops hrun hline hstop => exact .stops ((Prog.reaches_of_drifts hd _).trans hrun) (starts hline) hstop
  | next hrun hline hon hrest => exact .next ((Prog.reaches_of_drifts hd _).trans hrun) (starts hline) hon hrest

theorem drifts (h : Carried k shell lines r last k') (hd : (noted False).Drifts k' k'') :
    Carried k shell lines r last k'' := by
  induction h with
  | done hd' => exact .done (hd'.trans hd)
  | exits hrun hline hexit => exact .exits hrun hline (hexit.drifts hd)
  | stops hrun hline hstop => exact .stops hrun hline (hstop.drifts hd)
  | next hrun hline hon _ ih => exact .next hrun hline hon (ih hd)

theorem held (hk : k.1.held = false) (h : Carried k shell lines r last k') : k'.1.held = false := by
  induction h with
  | done hd => exact (drifts_held (Surroundings.noting_drifts_iff.mp hd).1).trans hk
  | exits _ _ hexit => exact hexit.held
  | stops _ _ hstop => exact hstop.held
  | next _ _ hon _ ih => exact ih hon.held

/-- A command that is stopped has a note of the call that was refused. -/
theorem noted (h : Carried k shell lines r last k') : ∃ new, k'.2 = k.2 ++ new ∧
    ∀ stop, r = .error stop → .unreported ∈ new ∨ .unflushed ∈ new := by
  induction h with
  | done hd =>
    exact ⟨[], (Surroundings.noting_drifts_iff.mp hd).2.trans (List.append_nil _).symm, fun _ he => by cases he⟩
  | exits _ hline hexit =>
    obtain ⟨-, first, hfirst, -⟩ := hline
    obtain ⟨second, hsecond, -⟩ := hexit.behind
    exact ⟨first ++ second, by rw [hsecond, hfirst, List.append_assoc], fun _ he => by cases he⟩
  | stops _ hline hstop =>
    obtain ⟨-, first, hfirst, -⟩ := hline
    obtain ⟨second, hsecond, hbehind⟩ := hstop.behind
    refine ⟨first ++ second, by rw [hsecond, hfirst, List.append_assoc], fun _ _ => ?_⟩
    cases hbehind with
    | unsaid => exact .inl (List.mem_append_right _ List.mem_cons_self)
    | unwritten => exact .inr (List.mem_append_right _ List.mem_cons_self)
  | next _ hline hon _ ih =>
    obtain ⟨-, first, hfirst, -⟩ := hline
    obtain ⟨second, hsecond, -⟩ := hon.behind
    obtain ⟨third, hthird, hstop⟩ := ih
    refine ⟨first ++ second ++ third, by rw [hthird, hsecond, hfirst]; simp only [List.append_assoc], fun stop he => ?_⟩
    exact (hstop stop he).imp (List.mem_append_right _) (List.mem_append_right _)

end Carried

/-! ### Messages and the output -/

theorem pre_flush {P : Except Errno Unit → State × List Noted → Prop} (hk : k.1.held = false)
    (h : ∀ r s', s'.held = false → P r (s', k.2 ++ (note .flush r).toList)) : (contract False).pre .flush P k := by
  refine Surroundings.noting_pre fun s hs => ⟨⟨s, .ok (), _, .refl, [], rfl⟩, fun r s' ha => ⟨s', .refl, h r s' ?_⟩⟩
  obtain ⟨part, rfl⟩ := ha
  exact (drifts_held hs).trans hk

/-- A message is taken, or its refusal is noted and the interpreter panics. -/
theorem ensures_complain (hk : k.1.held = false) (text : Text) :
    (Output.complain text).run.Ensures (contract False) (fun r k' => k'.1.held = false ∧
      (r = .ok () ∧ k'.2 = k.2 ∨ r = .error .panic ∧ k'.2 = k.2 ++ [.unreported])) k := by
  refine Prog.ensures_perform (pre_quiet (c := .write 2 text.encode) trivial fun r => ?_)
  rcases r with e | n
  · by_cases he : e = .badDescriptor
    · have hnote : note (.write 2 text.encode) (.error e) = none := if_neg fun h => h.2 he
      rw [hnote]
      exact Prog.ensures_pure ⟨hk, .inl ⟨if_pos he, List.append_nil _⟩⟩
    · have hnote : note (.write 2 text.encode) (.error e) = some .unreported := if_pos ⟨rfl, he⟩
      rw [hnote]
      exact Prog.ensures_pure ⟨hk, .inr ⟨if_neg he, rfl⟩⟩
  · exact Prog.ensures_pure ⟨hk, .inl ⟨rfl, List.append_nil _⟩⟩

theorem ensures_flush (hk : k.1.held = false) : Output.flush.run.Ensures (contract False) (fun r k' => k'.1.held = false ∧
    (r = .ok () ∧ k'.2 = k.2 ∨ ∃ e, r = .error (.failure (.system e)) ∧ k'.2 = k.2 ++ [.unflushed])) k := by
  refine Prog.ensures_perform (pre_flush hk fun r s' hs' => ?_)
  rcases r with e | _
  · exact Prog.ensures_pure ⟨hs', .inr ⟨e, rfl, rfl⟩⟩
  · exact Prog.ensures_pure ⟨hs', .inl ⟨rfl, List.append_nil _⟩⟩

theorem ensures_settle (hk : k.1.held = false) (result : Except Failure Flow) :
    (Session.settle result).run.Ensures (contract False) (fun flow k' => k'.1.held = false ∧
      ∃ new, k'.2 = k.2 ++ new ∧ Behind result flow new) k := by
  have flushed : ∀ {k₁ : State × List Noted} {flow : Flow}, k₁.1.held = false → k₁.2 = k.2 →
      Behind result (.ok flow) [] →
      (Output.flush >>= fun _ => pure flow : Stoppable Flow).run.Ensures (contract False) (fun flow k' =>
        k'.1.held = false ∧ ∃ new, k'.2 = k.2 ++ new ∧ Behind result flow new) k₁ := by
    intro k₁ flow hk₁ hnotes hbehind
    refine Prog.ensures_run_bind ((ensures_flush hk₁).mono ?_)
    rintro _ k₂ ⟨hk₂, ⟨rfl, hsame⟩ | ⟨e, rfl, hnew⟩⟩
    · exact Prog.ensures_pure ⟨hk₂, [], by rw [hsame, hnotes, List.append_nil], hbehind⟩
    · exact ⟨hk₂, _, by rw [hnew, hnotes], .unwritten⟩
  cases result with
  | ok flow => exact flushed hk rfl .written
  | error f =>
    refine Prog.ensures_run_bind ((ensures_complain hk _).mono ?_)
    rintro _ k₁ ⟨hk₁, ⟨rfl, hsame⟩ | ⟨rfl, hnew⟩⟩
    · exact flushed hk₁ hsame .said
    · exact ⟨hk₁, _, hnew, .unsaid⟩

theorem halts_complain (text : Text) : Prog.Halts (noted False) (Output.complain text).run :=
  Prog.halts_bind (Prog.halts_perform _) fun r => by
    cases r <;> exact Prog.halts_pure _

theorem halts_flush : Prog.Halts (noted False) Output.flush.run :=
  Prog.halts_bind (Prog.halts_perform _) fun r => by
    cases r <;> exact Prog.halts_pure _

theorem halts_settle (result : Except Failure Flow) : Prog.Halts (noted False) (Session.settle result).run := by
  have flushed : ∀ flow : Flow, Prog.Halts (noted False) (Output.flush >>= fun _ => pure flow : Stoppable Flow).run :=
    fun _ => Prog.halts_run_bind halts_flush fun _ => Prog.halts_pure _
  cases result with
  | ok flow => exact flushed flow
  | error f => exact Prog.halts_run_bind (halts_complain _) fun _ => flushed .proceed

theorem concludes_eval (hk : k.1.held = false) (shell : Shell) (line : Text) :
    Prog.Concludes (noted False) (fun r k' => LineEnds shell.limits line k r.1 r.2.status k' ∧
      Prog.Reaches (noted False) (k, shell.eval line) (k', .done r)) k (shell.eval line) :=
  ((halts_eval shell line k).concludes .refl (ensures_eval_outcome hk shell line)).reached.mono
    fun _ _ h => by
      obtain ⟨⟨_, hd, hline⟩, hrun⟩ := h
      exact ⟨hline.drifts hd, hrun⟩

theorem concludes_settle (hk : k.1.held = false) (result : Except Failure Flow) :
    Prog.Concludes (noted False) (Settling k result) k (Session.settle result).run := by
  refine ((halts_settle result k).concludes .refl (ensures_settle hk result)).reached.mono ?_
  rintro flow k' ⟨⟨k₁, hd, hheld, new, hnew, hbehind⟩, hrun⟩
  obtain ⟨hdrifts, hnotes⟩ := Surroundings.noting_drifts_iff.mp hd
  exact ⟨hrun, (drifts_held hdrifts).trans hheld, new, hnotes.trans hnew, hbehind⟩

theorem concludes_throughTexts (hk : k.1.held = false) (shell : Shell) (lines : List Text) :
    Prog.Concludes (noted False) (fun r k' => Carried k shell lines r.1 r.2 k') k
      (Session.throughTexts Shell.eval shell lines) := by
  induction lines generalizing k shell with
  | nil => exact .done fun _ hd => .done hd
  | cons line lines ih =>
    refine Prog.Concludes.bind ((concludes_eval hk shell line).mono ?_)
    rintro ⟨result, after⟩ k₁ ⟨hline, hrun⟩
    refine Prog.Concludes.bind ((concludes_settle hline.1 result).mono ?_)
    rintro (stop | _ | code) k₂ hsettling
    · exact .done fun _ hd => .stops hrun hline (hsettling.drifts hd)
    · exact (ih hsettling.held after).mono fun r k' hrest => .next hrun hline hsettling hrest
    · exact .done fun _ hd => .exits hrun hline (hsettling.drifts hd)

/-! ### The command line -/

/-- The shell with which a command begins. -/
def commandShell (environment : List (Bytes × Bytes)) : Shell :=
  { limits := (Config.ofEnvironment environment).limits }

/-- The environment is read, and then the lines of the command are. -/
theorem runCommand_eq (text : Text) : (CommandLine.runCommand text).run = .call .environment fun environment =>
    (Session.through Shell.eval (commandShell environment) text.encode).bind fun x =>
      .done (x.1.map (CommandLine.codeAfter · x.2)) := by
  refine congrArg (Prog.call .environment) (funext fun environment => ?_)
  show ((Session.all _ _ _).bind _).bind _ = ((Session.all _ _ _).bind _).bind _
  rw [Prog.bind_assoc, Prog.bind_assoc]
  congr 1
  funext x
  obtain ⟨result, state⟩ := x
  cases result <;> rfl

/-- The exit code is the low byte, also that of a negative code. -/
theorem exitCode_eq_lowByte (code : Int) :
    CommandLine.exitCode code = ((BitVec.ofInt 32 code).setWidth 8).toNat := by
  rw [CommandLine.exitCode, BitVec.toNat_setWidth, BitVec.toNat_ofInt]
  omega

/-- The end of a process: a failure is reported, and the output is written out. -/
def ending (result : Except Stop Int) : Prog Int := do
  let code ← (CommandLine.finish result).run
  let _ ← Prog.perform .flush
  match code with
  | .ok code => return code
  | .error _ => return CommandLine.panicCode

/-- The exit code by the answer of a session, and by the notes of the calls behind it. -/
inductive Exit : Except Stop Int → List Noted → Int → Prop
  | answered {code : Int} {new : List Noted} : Exit (.ok code) new code
  | panicked {new : List Noted} : Exit (.error .panic) new 101
  | failed {f : Failure} {new : List Noted} (h : .unreported ∉ new) : Exit (.error (.failure f)) new 1
  | unreported {f : Failure} {new : List Noted} (h : .unreported ∈ new) : Exit (.error (.failure f)) new 101

theorem ensures_ending (hk : k.1.held = false) (result : Except Stop Int) :
    (ending result).Ensures (contract False) (fun code k' => ∃ new, k'.2 = k.2 ++ new ∧ Exit result new code) k := by
  have flushes : ∀ (code : Except Stop Int) (said : List Noted) {k₁ : State × List Noted}, k₁.1.held = false →
      k₁.2 = k.2 ++ said → (∀ flushed, (∀ x ∈ flushed, x = .unflushed) →
        Exit result (said ++ flushed) (match code with
          | .ok code => code
          | .error _ => 101)) →
      (Prog.perform .flush >>= fun _ => match code with
        | .ok code => pure code
        | .error _ => pure CommandLine.panicCode).Ensures (contract False)
          (fun code k' => ∃ new, k'.2 = k.2 ++ new ∧ Exit result new code) k₁ := by
    intro code said k₁ hk₁ hsaid hexit
    refine Prog.ensures_perform (pre_flush hk₁ fun r s' _ => ?_)
    have hflushed : ∀ x ∈ (note .flush r).toList, x = Noted.unflushed := by
      cases r <;> simp [note]
    have hall := hexit _ hflushed
    have hnotes : k₁.2 ++ (note .flush r).toList = k.2 ++ (said ++ (note .flush r).toList) := by
      rw [hsaid, List.append_assoc]
    cases code <;> exact Prog.ensures_pure ⟨_, hnotes, hall⟩
  rcases result with (f | _) | code
  · refine Prog.ensures_bind (Prog.ensures_run_bind ((ensures_complain hk _).mono ?_))
    rintro _ k₁ ⟨hk₁, ⟨rfl, hsame⟩ | ⟨rfl, hnew⟩⟩
    · have hnone : k₁.2 = k.2 ++ [] := hsame.trans (List.append_nil _).symm
      refine Prog.ensures_pure (flushes (.ok 1) [] hk₁ hnone fun flushed h => .failed fun hmem => ?_)
      cases h _ hmem
    · exact flushes (.error .panic) _ hk₁ hnew fun flushed _ => .unreported (List.mem_append_left _ List.mem_cons_self)
  · exact flushes (.error .panic) [] hk (List.append_nil _).symm fun _ _ => .panicked
  · exact flushes (.ok code) [] hk (List.append_nil _).symm fun _ _ => .answered

theorem halts_ending (result : Except Stop Int) : Prog.Halts (noted False) (ending result) := by
  have flushes : ∀ code : Except Stop Int, Prog.Halts (noted False) (Prog.perform .flush >>= fun _ => match code with
      | .ok code => pure code
      | .error _ => pure CommandLine.panicCode) := fun code =>
    Prog.halts_bind (Prog.halts_perform _) fun _ => by cases code <;> exact Prog.halts_pure _
  refine Prog.halts_bind ?_ flushes
  rcases result with (f | _) | code
  · exact Prog.halts_run_bind (halts_complain _) fun _ => Prog.halts_pure _
  · exact Prog.halts_pure _
  · exact Prog.halts_pure _

/-- How a command ends: its lines are evaluated, without the white space around them and without the blank ones, up to
the first that ends the session, and the exit code is by the answer of the session. If that is no failure, the code is the
low byte of the code that a line has asked for, or else of the status behind the last line. -/
def CommandEnds (k : State × List Noted) (text : Text) (code : Int) (k' : State × List Noted) : Prop :=
  ∃ lines r last k₁ new, Session.Enters (text.splitOn '\n') lines ∧
    Carried k (commandShell k.1.environment) lines r last k₁ ∧ k'.2 = k₁.2 ++ new ∧
    Exit (r.map fun asked => (((BitVec.ofInt 32 (asked.getD last.status)).setWidth 8).toNat : Int)) new code

/-- Whatever the text is and however the programs behave, a command comes to an end. If all messages about failures are
taken and all that was printed is written out, the exit code is the low byte of the code that the first line asks for that
exits, or else of the status behind the last line. -/
theorem command_exit_code {s : State} (hs : s.held = false) (notes : List Noted) (text : Text) :
    Prog.Concludes (noted False) (fun code k' => CommandEnds (s, notes) text code k' ∧
      ∃ new, k'.2 = notes ++ new ∧ (.unreported ∉ new → .unflushed ∉ new → ∃ lines asked last k₁,
        Session.Enters (text.splitOn '\n') lines ∧
        Carried (s, notes) (commandShell s.environment) lines (.ok asked) last k₁ ∧
        code = ((BitVec.ofInt 32 (asked.getD last.status)).setWidth 8).toNat))
      (s, notes) (CommandLine.run ["-c".toList, text]) := by
  show Prog.Concludes _ _ _ ((CommandLine.runCommand text).run.bind ending)
  rw [runCommand_eq]
  refine .call (fun k₁ _ => Surroundings.noting_open ⟨k₁.1, k₁.1.environment, k₁.1, .refl, rfl, rfl⟩) ?_
  rintro ⟨s₁, notes₁⟩ environment ⟨s₂, notes₂⟩ hd ⟨⟨henvironment, hsame⟩, hnotes⟩
  obtain rfl : s₂ = s₁ := hsame
  obtain rfl : notes₂ = notes₁ := hnotes.trans (List.append_nil notes₁)
  have hown : s₂.toOwn = s.toOwn := drifts_own (Surroundings.noting_drifts_iff.mp hd).1
  have hheld : s₂.held = false := (congrArg Own.held hown).trans hs
  obtain rfl : environment = s.environment := henvironment.trans (congrArg Own.environment hown)
  refine .bind (.bind (.of_unfolds (Session.through_encode_unfolds _ text) ?_))
  refine (concludes_throughTexts (k := (s₂, notes₂)) hheld _ _).mono ?_
  rintro ⟨r, last⟩ k₁ hcarried
  have hlines := Session.enters_entered (text.splitOn '\n')
  replace hcarried := hcarried.of_drifts hd
  refine .done fun k₂ hd₂ => ?_
  replace hcarried := hcarried.drifts hd₂
  refine ((halts_ending _ k₂).concludes .refl (ensures_ending (hcarried.held hs) _)).mono ?_
  rintro code k' ⟨k₃, hd₃, new, hnew, hexit⟩
  have hnotes : k'.2 = k₂.2 ++ new := (Surroundings.noting_drifts_iff.mp hd₃).2.trans hnew
  have hcode : r.map (fun asked => CommandLine.codeAfter asked last) =
      r.map fun asked => (((BitVec.ofInt 32 (asked.getD last.status)).setWidth 8).toNat : Int) :=
    congrArg (fun f => r.map f) (funext fun _ => exitCode_eq_lowByte _)
  rw [hcode] at hexit
  refine ⟨⟨_, r, last, k₂, new, hlines, hcarried, hnotes, hexit⟩, ?_⟩
  obtain ⟨before, hbefore, hstop⟩ := hcarried.noted
  refine ⟨before ++ new, by rw [hnotes, hbefore, List.append_assoc], fun hunreported hunflushed => ?_⟩
  cases r with
  | error stop =>
    rcases hstop stop rfl with h | h
    · exact absurd (List.mem_append_left _ h) hunreported
    · exact absurd (List.mem_append_left _ h) hunflushed
  | ok asked =>
    cases hexit
    exact ⟨_, asked, last, k₂, hlines, hcarried, rfl⟩

/-! ### Commands that end by an exit code, by a signal and by a negative code -/

theorem reaches_exiting : ∃ s, Prog.Reaches (noted False)
    ((oneDisturbance, []), CommandLine.run ["-c".toList, "a\n\n".toList])
    ((s, [.forked 71, .collected 71 (.exited 3)]), .done 3) := by
  have h : Prog.Reaches (noted False) ((oneDisturbance, []), CommandLine.run ["-c".toList, "a\n\n".toList]) _ := .refl
  replace h := h.tail (step_call .environment [] ⟨rfl, rfl⟩)
  replace h := (h.tail .unroll).tail .unroll
  replace h := h.tail (step_call .fork (.ok (.parent 71)) ⟨by decide, rfl, rfl⟩)
  replace h := h.tail .unroll
  replace h := h.tail (step_drift (@Drift.ends _ _ 71 (.exited 3) rfl))
  replace h := h.tail (step_call (.wait 71 true) (.ok (.exited 71 3))
    (.inl ⟨71, .exited 3, fun _ => rfl, rfl, ⟨rfl, rfl⟩, rfl⟩))
  replace h := h.tail (step_call .flush (.ok ()) ⟨[], rfl⟩)
  replace h := (h.tail .unroll).tail .unroll
  replace h := (h.tail .unroll).tail .unroll
  replace h := h.tail (step_call .flush (.ok ()) ⟨[], rfl⟩)
  exact ⟨_, h⟩

theorem reaches_killed : ∃ s, Prog.Reaches (noted False)
    ((oneDisturbance, []), CommandLine.run ["-c".toList, ['a', '|', 'b']])
    ((s, twoStageNotes), .done 137) := by
  have h : Prog.Reaches (noted False) ((oneDisturbance, []), CommandLine.run ["-c".toList, ['a', '|', 'b']]) _ := .refl
  replace h := h.tail (step_call .environment [] ⟨rfl, rfl⟩)
  replace h := (h.tail .unroll).tail .unroll
  replace h := h.tail (step_call .pipe (.ok (3, 4)) ⟨by decide, rfl, rfl, 0, rfl⟩)
  replace h := h.tail (step_call .fork (.ok (.parent 71)) ⟨by decide, rfl, rfl⟩)
  replace h := h.tail (step_call (.close 4) (.ok ()) rfl)
  replace h := h.tail (step_call .fork (.ok (.parent 72)) ⟨by decide, rfl, rfl⟩)
  replace h := h.tail (step_call (.close 3) (.ok ()) rfl)
  replace h := h.tail .unroll
  replace h := h.tail (step_drift (@Drift.ends _ _ 71 (.exited 3) rfl))
  replace h := h.tail (step_call (.wait 71 true) (.ok (.exited 71 3))
    (.inl ⟨71, .exited 3, fun _ => rfl, rfl, ⟨rfl, rfl⟩, rfl⟩))
  replace h := h.tail .unroll
  replace h := h.tail (step_drift (@Drift.ends _ _ 72 killedEnd rfl))
  replace h := h.tail (step_call (.wait 72 true) (.ok (.signaled 72 9 false))
    (.inl ⟨72, killedEnd, fun _ => rfl, rfl, ⟨rfl, _, rfl, rfl⟩, rfl⟩))
  replace h := h.tail (step_call .flush (.ok ()) ⟨[], rfl⟩)
  replace h := (h.tail .unroll).tail .unroll
  replace h := h.tail (step_call .flush (.ok ()) ⟨[], rfl⟩)
  exact ⟨_, h⟩

theorem reaches_exitingNegative : ∃ s, Prog.Reaches (noted False)
    ((oneDisturbance, []), CommandLine.run ["-c".toList, "exit -1\nb".toList]) ((s, []), .done 255) := by
  have h : Prog.Reaches (noted False)
    ((oneDisturbance, []), CommandLine.run ["-c".toList, "exit -1\nb".toList]) _ := .refl
  replace h := h.tail (step_call .environment [] ⟨rfl, rfl⟩)
  replace h := (h.tail .unroll).tail .unroll
  replace h := h.tail (step_call .flush (.ok ()) ⟨[], rfl⟩)
  replace h := h.tail (step_call .flush (.ok ()) ⟨[], rfl⟩)
  exact ⟨_, h⟩

/-- A run of a command to this exit code, which is that of its lines. -/
def Shown (text : Text) (notes : List Noted) (code : Int) : Prop :=
  ∃ s, Prog.Reaches (noted False) ((oneDisturbance, []), CommandLine.run ["-c".toList, text]) ((s, notes), .done code) ∧
    CommandEnds (oneDisturbance, []) text code (s, notes) ∧ ∃ lines asked last k₁,
      Session.Enters (text.splitOn '\n') lines ∧
      Carried (oneDisturbance, []) (commandShell []) lines (.ok asked) last k₁ ∧
      code = ((BitVec.ofInt 32 (asked.getD last.status)).setWidth 8).toNat

theorem command_exit_code_statuses : oneDisturbance.held = false ∧
    Shown "a\n\n".toList [.forked 71, .collected 71 (.exited 3)] 3 ∧ Shown ['a', '|', 'b'] twoStageNotes 137 ∧
    Shown "exit -1\nb".toList [] 255 := by
  have shown : ∀ {text notes code}, .unreported ∉ notes → .unflushed ∉ notes → (∃ s, Prog.Reaches (noted False)
      ((oneDisturbance, []), CommandLine.run ["-c".toList, text]) ((s, notes), .done code)) → Shown text notes code := by
    intro text notes code hunreported hunflushed ⟨s, hrun⟩
    obtain ⟨hends, new, rfl, hanswered⟩ := (command_exit_code (s := oneDisturbance) rfl [] text).ends hrun
    exact ⟨s, hrun, hends, hanswered hunreported hunflushed⟩
  refine ⟨rfl, shown ?_ ?_ reaches_exiting, shown ?_ ?_ reaches_killed, shown ?_ ?_ reaches_exitingNegative⟩
  all_goals simp [twoStageNotes]

/-! ### A message that is refused -/

/-- There is no job with this id, and nobody can be told. -/
theorem command_exits_unreported : ∃ s, (commandShell []).status = 0 ∧
    Prog.Reaches (noted False) ((oneDisturbance, []), (commandShell []).eval "fg 999".toList)
      ((oneDisturbance, []), .done (.error (.noSuchJob "fg".toList 999), { commandShell [] with status := 1 })) ∧
    Prog.Reaches (noted False) ((oneDisturbance, []), CommandLine.run ["-c".toList, "fg 999".toList])
      ((s, [.unreported]), .done 101) := by
  have heval : Prog.Reaches (noted False) ((oneDisturbance, []), (commandShell []).eval "fg 999".toList) _ := .refl
  replace heval := heval.tail (step_call .acquireJobs .empty ⟨rfl, rfl, rfl⟩)
  replace heval := heval.tail (step_call (.releaseJobs .empty) () ⟨rfl, rfl⟩)
  have h : Prog.Reaches (noted False) ((oneDisturbance, []), CommandLine.run ["-c".toList, "fg 999".toList]) _ := .refl
  replace h := h.tail (step_call .environment [] ⟨rfl, rfl⟩)
  replace h := (h.tail .unroll).tail .unroll
  replace h := h.tail (step_call .acquireJobs .empty ⟨rfl, rfl, rfl⟩)
  replace h := h.tail (step_call (.releaseJobs .empty) () ⟨rfl, rfl⟩)
  replace h := h.tail (step_call (.write 2 (Text.encode "pish: fg: no such job: 999\n".toList)) (.error .noSpace)
    fun _ => rfl)
  replace h := h.tail (step_call .flush (.ok ()) ⟨[], rfl⟩)
  exact ⟨_, rfl, heval, h⟩

end JobShell.Estate
