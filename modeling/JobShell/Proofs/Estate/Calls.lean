import JobShell.Proofs.Estate.Stands
import JobShell.Proofs.Line.Rules

/-! # The calls of the interpreter

What has to hold for a call so that a condition holds behind it, and that the call is not left without a reply. Waiting
for a child ends with the end of this child, or because it is not there; the disturbances in between are of no account. -/

namespace JobShell.Estate
open Children (Ending Phase)

variable {reaper : Prop} {k : State × List Noted} {target pid : Pid}

theorem pre_quiet {c : Call} (hq : Quiet c) {P : c.Reply → State × List Noted → Prop}
    (h : ∀ r, P r (k.1, k.2 ++ (note c r).toList)) : (contract reaper).pre c P k := by
  have hanswer : ∀ {s r s'}, Answer c s r s' ↔ s' = s := by
    intro s r s'
    cases c <;> first | exact hq.elim | exact ⟨fun ha => ha trivial, fun he _ => he⟩
  have hreply : Nonempty c.Reply := by
    cases c <;> first | exact hq.elim | exact ⟨.ok ()⟩ | exact ⟨.ok 0⟩ | exact ⟨true⟩ | exact ⟨()⟩ | exact ⟨(0 : Int)⟩
  refine Surroundings.noting_pre fun s hs => ⟨⟨s, hreply.some, s, .refl, hanswer.mpr rfl⟩, fun r s' ha => ?_⟩
  obtain rfl := hanswer.mp ha
  exact ⟨k.1, hs, h r⟩

theorem ignores_of_quiet (c : Call) (hq : Quiet c) (hn : ∀ r, note c r = none) : (contract reaper).Ignores c := by
  intro P k hP
  refine pre_quiet hq fun r => ?_
  rw [hn, Option.toList_none, List.append_nil]
  exact hP r

theorem ignores_terminal : (contract reaper).IgnoresTerminal where
  isTerminal _ := ignores_of_quiet (.isTerminal _) trivial fun _ => rfl
  blockSignal _ _ := ignores_of_quiet (.blockSignal _ _) trivial fun _ => rfl
  setForeground _ _ := ignores_of_quiet (.setForeground _ _) trivial fun _ => rfl
  ownGroup := ignores_of_quiet .ownGroup trivial fun _ => rfl

theorem pre_pipe {P : Except Errno (Descriptor × Descriptor) → State × List Noted → Prop}
    (hpipe : ∀ s reader writer n, (world reaper).Drifts k.1 s → reader ≠ writer → s.descriptors reader = none →
      s.descriptors writer = none → P (.ok (reader, writer))
        ({ s with descriptors := (s.descriptors.set reader ⟨.reader n, true⟩).set writer ⟨.writer n, true⟩ },
          k.2 ++ [.pipe]))
    (hrefused : ∀ e, P (.error e) (k.1, k.2 ++ [.refused (.pipe e)])) : (contract reaper).pre .pipe P k := by
  refine Surroundings.noting_pre fun s hs => ⟨⟨s, .error .tryAgain, s, .refl, rfl⟩, ?_⟩
  rintro (e | ⟨reader, writer⟩) s' ha
  · obtain rfl : s' = s := ha
    exact ⟨k.1, hs, hrefused e⟩
  · obtain ⟨hne, hr, hw, n, rfl⟩ := ha
    exact ⟨_, .refl, hpipe s reader writer n hs hne hr hw⟩

theorem pre_close {d : Descriptor} {P : Except Errno Unit → State × List Noted → Prop}
    (h : ∀ r s, (world reaper).Drifts k.1 s → P r ({ s with descriptors := s.descriptors.clear d }, k.2)) :
    (contract reaper).pre (.close d) P k := by
  refine Surroundings.noting_pre fun s hs => ⟨⟨s, .ok (), _, .refl, rfl⟩, ?_⟩
  rintro r s' rfl
  refine ⟨_, .refl, ?_⟩
  rw [show note (.close d) r = none from rfl, Option.toList_none, List.append_nil]
  exact h r s hs

theorem pre_fork {P : Except Errno Forked → State × List Noted → Prop}
    (hfork : ∀ s pid, (world reaper).Drifts k.1 s → 0 < pid → s.children pid = none →
      P (.ok (.parent pid)) (s.set pid (some .running), k.2 ++ [.forked pid]))
    (hrefused : ∀ e, P (.error e) (k.1, k.2 ++ [.refused (.fork e)])) : (contract reaper).pre .fork P k := by
  refine Surroundings.noting_pre fun s hs => ⟨⟨s, .error .tryAgain, s, .refl, rfl⟩, ?_⟩
  rintro (e | _ | pid) s' ha
  · obtain rfl : s' = s := ha
    exact ⟨k.1, hs, hrefused e⟩
  · exact ha.elim
  · obtain ⟨hpos, hfree, rfl⟩ := ha
    exact ⟨_, .refl, hfork s pid hs hpos hfree⟩

theorem pre_acquire {P : JobTable → State × List Noted → Prop} (hheld : k.1.held = false)
    (h : ∀ s, (world reaper).Drifts k.1 s → P s.table ({ s with held := true }, k.2)) :
    (contract reaper).pre .acquireJobs P k := by
  refine Surroundings.noting_pre fun s hs => ?_
  have hheld : s.held = false := (drifts_held hs).trans hheld
  refine ⟨⟨s, s.table, _, .refl, hheld, rfl, rfl⟩, ?_⟩
  rintro table s' ⟨-, rfl, rfl⟩
  refine ⟨_, .refl, ?_⟩
  rw [show note .acquireJobs s.table = none from rfl, Option.toList_none, List.append_nil]
  exact h s hs

theorem pre_release {table : JobTable} {P : Unit → State × List Noted → Prop} (hheld : k.1.held = true)
    (h : ∀ s, (world reaper).Drifts k.1 s → P () ({ s with table, held := false }, k.2)) :
    (contract reaper).pre (.releaseJobs table) P k := by
  refine Surroundings.noting_pre fun s hs => ?_
  have hheld : s.held = true := (drifts_held hs).trans hheld
  refine ⟨⟨s, (), _, .refl, hheld, rfl⟩, ?_⟩
  rintro ⟨⟩ s' ⟨-, rfl⟩
  refine ⟨_, .refl, ?_⟩
  rw [show note (.releaseJobs table) () = none from rfl, Option.toList_none, List.append_nil]
  exact h s hs

/-! ### Waiting for a child -/

/-- How waiting ends in a state: with the end of a child, or because there is none to wait for. -/
inductive Awaited (target : Pid) (s : State) (notes : List Noted) :
    Except Failure (Option Status) → State × List Noted → Prop
  | collected {pid : Pid} {e : Ending} (hpid : 0 < target → pid = target) (he : s.children pid = some (.ended e)) :
      Awaited target s notes (e.waited target) (s.set pid none, notes ++ [.collected pid e])
  | nobody (h : 0 < target → s.children target = none) : Awaited target s notes (.ok none) (s, notes)

theorem waited?_of_reported {e : Ending} {report : Report} (h : e.Reported pid report) :
    waited? target (.ok report) = some (e.waited target) := by
  have htold := Children.told_of_reported h
  rw [waited?, Ending.waited]
  generalize report.named = told at htold ⊢
  cases htold with
  | named he _ hs => simp [he, hs]
  | nameless he =>
    rw [he]
    rfl

theorem note_of_reported {e : Ending} {report : Report} (h : e.Reported pid report) :
    note (.wait target true) (.ok report) = some (.collected pid e) := by
  cases report with
  | exited p code =>
    obtain ⟨rfl, rfl⟩ := h
    rfl
  | signaled p n core =>
    obtain ⟨rfl, signal, rfl, rfl⟩ := h
    exact dif_pos signal.2
  | _ => exact h.elim

theorem waited?_of_stirring {report : Report} (h : Stirring report) : waited? target (.ok report) = none := by
  cases report with
  | stopped p n =>
    obtain ⟨signal, hn⟩ := Option.ne_none_iff_exists'.mp h
    simp only [waited?, Report.named, hn]
    rfl
  | continued p => rfl
  | _ => exact h.elim

theorem note_of_stirring {report : Report} (h : Stirring report) : note (.wait target true) (.ok report) = none := by
  cases report with
  | stopped | continued => rfl
  | _ => exact h.elim

theorem exists_reported (pid : Pid) (e : Ending) : ∃ report, e.Reported pid report := by
  cases e with
  | exited code => exact ⟨.exited pid code, rfl, rfl⟩
  | signaled n => exact ⟨.signaled pid n false, rfl, n, rfl, rfl⟩

/-- Every wait gets a reply: the child ends at some time, if there is one. -/
theorem open_wait (target : Pid) (s : State) : (world reaper).Open (.wait target true) s := by
  have collects : ∀ s' e, s'.children target = some (.ended e) →
      ∃ r s₂, (world reaper).Answer (.wait target true) s' r s₂ := fun s' e he =>
    let ⟨report, hr⟩ := exists_reported target e
    ⟨.ok report, _, .inl ⟨target, e, fun _ => rfl, he, hr, rfl⟩⟩
  cases hp : s.children target with
  | none => exact ⟨s, .error .noChild, s, .refl, .inr ⟨rfl, fun _ => hp, rfl⟩⟩
  | some phase =>
    cases phase with
    | running =>
      obtain ⟨r, s₂, ha⟩ := collects (s.set target (some (.ended (.exited 0)))) (.exited 0) (by simp)
      exact ⟨_, r, s₂, .single (.ends _ hp), ha⟩
    | ended e =>
      obtain ⟨r, s₂, ha⟩ := collects s e hp
      exact ⟨s, r, s₂, .refl, ha⟩

theorem ensures_waitFor (target : Pid) (k : State × List Noted) : (waitFor target).Ensures (contract reaper)
    (fun r k' => ∃ s, (world reaper).Drifts k.1 s ∧ Awaited target s k.2 r k') k := by
  refine ensures_waitFor_of (fun k' => (world reaper).Drifts k.1 k'.1 ∧ k'.2 = k.2) ⟨.refl, rfl⟩ ?_
  rintro ⟨s₀, _⟩ ⟨hs₀, rfl⟩
  refine Surroundings.noting_pre fun s hs => ⟨open_wait target s, fun r s' ha => ⟨s', .refl, ?_⟩⟩
  have hs : (world reaper).Drifts k.1 s := hs₀.trans hs
  cases r with
  | error e =>
    rw [show note (.wait target true) (.error e) = none from rfl, Option.toList_none, List.append_nil]
    rcases ha with ⟨rfl, hc⟩ | ⟨rfl, hnone, rfl⟩
    · exact ⟨hs.tail (.calms hc), rfl⟩
    · exact ⟨s', hs, .nobody hnone⟩
  | ok report =>
    rcases ha with ⟨pid, e, hpid, he, hreport, rfl⟩ | ⟨hstir, hc⟩
    · rw [waited?_of_reported hreport, note_of_reported hreport]
      exact ⟨s, hs, .collected hpid he⟩
    · rw [waited?_of_stirring hstir, note_of_stirring hstir, Option.toList_none, List.append_nil]
      exact ⟨hs.tail (.calms hc), rfl⟩

end JobShell.Estate
