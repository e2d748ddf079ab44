import JobShell.Proofs.Descriptor.System
import JobShell.Proofs.Launch.Turns
import JobShell.Proofs.Launch.Unwaited
import JobShell.Proofs.Text.Utf8

/-! # From the texts of a stage to the bytes of its child

A pipeline is launched only if none of its texts has a zero. If one has, the first of them is reported before any call
is made. Otherwise each child is given the UTF-8 forms of the texts of its stage, without a zero in them, and opens the
files of its stage and no others. -/

namespace JobShell

/-! ### The texts of a stage -/

namespace Stage

/-- The texts of a stage in their order: its arguments, the path of its input, the path of its output. -/
def texts (s : Stage) : List Text := s.args ++ s.input.toList ++ s.output.toList

/-- The UTF-8 forms of the texts. -/
def invocation (s : Stage) : Invocation := ⟨s.args.map Text.encode, s.input.map Text.encode, s.output.map Text.encode⟩

end Stage

/-- The first text that has a zero. -/
def offending (ts : List Text) : Option Text := ts.find? fun t => '\x00' ∈ t

variable {α β : Type} {ts ts' : List Text} {t : Text} {s : Stage}

theorem offending_eq_none_iff : offending ts = none ↔ ∀ t ∈ ts, '\x00' ∉ t := by
  simp [offending]

theorem offending_append : offending (ts ++ ts') = (offending ts).or (offending ts') :=
  List.find?_append

/-- What is read from texts without a zero; otherwise the first text that has one is reported. -/
def checked (ts : List Text) (b : β) : Except Failure β :=
  (offending ts).elim (.ok b) fun t => .error (.nulByte t)

theorem bytes_eq (t : Text) : Invocation.bytes t = checked [t] t.encode := by
  by_cases h : '\x00' ∈ t <;> simp [Invocation.bytes, checked, offending, h]

theorem path_eq (t : Option Text) : Invocation.path t = checked t.toList (t.map Text.encode) := by
  cases t with
  | none => rfl
  | some t =>
    rw [Invocation.path, bytes_eq]
    show (checked [t] t.encode).map some = checked [t] (some t.encode)
    unfold checked
    cases offending [t] <;> rfl

theorem mapM_eq_checked {f : α → Except Failure β} {texts : α → List Text} {g : α → β}
    (h : ∀ a, f a = checked (texts a) (g a)) (as : List α) : as.mapM f = checked (as.flatMap texts) (as.map g) := by
  induction as with
  | nil => rfl
  | cons a as ih =>
    rw [List.mapM_cons, h, ih, List.flatMap_cons, checked, checked, checked, offending_append]
    cases offending (texts a) with
    | some t => rfl
    | none => cases offending (as.flatMap texts) <;> rfl

theorem ofStage_eq (s : Stage) : Invocation.ofStage s = checked s.texts s.invocation := by
  have hargs : s.args.mapM Invocation.bytes = checked s.args (s.args.map Text.encode) := by
    have h := mapM_eq_checked bytes_eq s.args
    rwa [List.flatMap_singleton'] at h
  rw [Invocation.ofStage, hargs, path_eq, path_eq, Stage.texts, checked, checked, checked, checked, offending_append,
    offending_append]
  cases offending s.args with
  | some t => rfl
  | none =>
    cases offending s.input.toList with
    | some t => rfl
    | none => cases offending s.output.toList <;> rfl

/-! ### What a launch fails with -/

namespace Launch

variable {p : Pipeline} {k : Bool}

/-- Stages that are spawned have a process each; otherwise a call was refused. -/
theorem ensures_spawn_failure (grouped : Bool) (stages : List Invocation) :
    (spawn grouped stages).Ensures watching (fun r _ => match r with
      | .ok pids => pids.length = stages.length
      | .error f => Refused f) k := by
  refine Prog.ensures_bind ((@ensures_spawnStages_of_invariant _ _ _ (fun _ _ _ => True) (ignores_of_not_waits rfl)
    (fun _ => ignores_of_not_waits rfl) ?_ [] _ _ _ trivial).mono ?_)
  · exact fun _ _ => (ensures_watching_true _ _).mono fun r _ _ => by cases r <;> trivial
  · rintro ⟨pids, _ | f⟩ k' ⟨-, ⟨hnone, hlength⟩ | ⟨⟨e, hf⟩, -⟩⟩
    · exact Prog.ensures_pure hlength
    · rcases hf with hf | hf <;> cases hf
    · cases hnone
    · exact Prog.ensures_bind ((ensures_watching_true (abandon pids) k').mono fun _ _ _ =>
        Prog.ensures_pure ⟨e, hf.imp Option.some.inj Option.some.inj⟩)

theorem ensures_waitAll_failure (pids : List Pid) :
    (waitAll pids).Ensures watching (fun r _ => ∀ f, r = .error f → ∃ pid e, f = .wait pid e) k := by
  refine (@ensures_waitAll_of _ _ _ (fun f _ => ∃ pid e, f = .wait pid e) (fun _ _ => True) _ [] trivial
    fun pid _ answers k _ => ?_).mono ?_
  · refine (ensures_waitFor_failure pid).mono ?_
    rintro (f | answer) _ hr
    · exact ⟨pid, hr f rfl⟩
    · trivial
  · rintro (f | statuses) _ hr
    · rintro _ ⟨⟩
      exact hr
    · exact nofun

/-- A launch fails because a text has a zero, or because a call was refused. -/
theorem ensures_launch_failure (p : Pipeline) : (launch p).Ensures watching (fun r _ => ∀ f, r = .error f →
    p.stages.mapM Invocation.ofStage = .error f ∨ Refused f ∨ ∃ pid e, f = .wait pid e) k := by
  refine ensures_launch_of (fun _ => nofun) (fun f hf _ he => ?_) fun stages _ hne _ => ?_
  · cases he
    exact .inl hf
  split
  · refine Prog.ensures_perform fun table => Prog.ensures_bind ((ensures_spawn_failure true stages).mono ?_)
    rintro (f | _ | ⟨first, rest⟩) _ hr
    · refine fun _ => ?_
      rintro _ ⟨⟩
      exact .inr (.inl hr)
    · -- There are stages, so there is a process.
      exact absurd (List.eq_nil_of_length_eq_zero hr.symm) hne
    · exact fun _ => nofun
  · refine Prog.ensures_bind ((ensures_spawn_failure false stages).mono ?_)
    rintro (f | pids) _ hr
    · rintro _ ⟨⟩
      exact .inr (.inl hr)
    · refine Prog.ensures_bind ((ensures_waitAll_failure pids).mono ?_)
      rintro (f | statuses) _ hr
      · rintro _ ⟨⟩
        exact .inr (.inr (hr f rfl))
      · exact nofun

end Launch

/-! ### What a program comes to -/

namespace Prog

/-- As long as the calls are replied to in a way that is allowed, the program comes to a call of which `Q` holds, with
the calls that were made before it. -/
inductive Comes (may : (c : Call) → c.Reply → Prop) (Q : List Event → Call → Prop) {α : Type} :
    List Event → Prog α → Prop
  | here {before : List Event} {c : Call} {next : c.Reply → Prog α} (h : Q before c) : Comes may Q before (.call c next)
  | call {before : List Event} {c : Call} {next : c.Reply → Prog α} (hsome : ∃ r, may c r)
      (h : ∀ r, may c r → Comes may Q (before ++ [⟨c, r⟩]) (next r)) : Comes may Q before (.call c next)
  | loop {before : List Event} {σ β : Type} {body : σ → Prog (σ ⊕ β)} {s : σ} {next : β → Prog α}
      (h : Comes may Q before (unroll body s next)) : Comes may Q before (.loop body s next)

/-- The calls are noted, and replied to in some way that is allowed. -/
def noting (may : (c : Call) → c.Reply → Prop) : Surroundings (List Event) where
  Answer c before r after := may c r ∧ after = before ++ [⟨c, r⟩]
  Drift _ _ := False

variable {may : (c : Call) → c.Reply → Prop} {Q : List Event → Call → Prop}

/-- A program that neither returns nor goes on for ever comes to a call at which it stops. -/
theorem Finishes.comes {before : List Event} {p : Prog Empty} (h : Finishes (noting may) before p)
    (stops : Call → Prop)
    (hstops : ∀ trace c, (∀ e ∈ trace, may e.call e.reply ∧ ¬ stops e.call) → Arrives p trace c → stops c →
      Q (before ++ trace) c)
    (hgoes : ∀ trace c, Arrives p trace c → ¬ stops c → ∃ r, may c r) : Comes may Q before p := by
  induction h with
  | @done _ a => exact a.elim
  | @call before c next _ ih =>
    by_cases hc : stops c
    · have hQ := hstops [] c nofun .here hc
      rw [List.append_nil] at hQ
      exact .here hQ
    · refine .call (hgoes [] c .here hc) fun r hr => ih before r _ .refl ⟨hr, rfl⟩
        (fun trace c' htrace harrives hc' => ?_) fun trace c' harrives => hgoes _ c' (.call harrives)
      rw [List.append_assoc]
      exact hstops _ c' (List.forall_mem_cons.mpr ⟨⟨hr, hc⟩, htrace⟩) (.call harrives) hc'
  | loop _ ih =>
    exact .loop (ih (fun trace c htrace harrives => hstops trace c htrace (.loop harrives)) fun trace c harrives =>
      hgoes trace c (.loop harrives))

end Prog

/-! ### The files of a child -/

/-- The files that a child opens, in their order, with the ways in which it opens them. -/
def Invocation.files (i : Invocation) : List (Bytes × Access) :=
  i.input.toList.map (·, .reading) ++ i.output.toList.map (·, .replacing Child.createdMode)

namespace Child
open Prog (Event Arrives Makes)

/-- The file that a call has opened. -/
def opened? : Event → Option (Bytes × Access)
  | ⟨.openFile path access, .ok _⟩ => some (path, access)
  | _ => none

/-- The file that a stream is to come from. -/
def Placement.file? (p : Placement) : Option (Bytes × Access) :=
  match p.source with
  | .held _ => none
  | .file path access => some (path, access)

/-- The call opens none but the given files. -/
def Opens (files : List (Bytes × Access)) (c : Call) : Prop :=
  ∀ path access, c = .openFile path access → (path, access) ∈ files

variable {trace : List Event} {source target : Descriptor} {r : Except Errno Unit} {p : Placement} {ps : List Placement}
  {i : Invocation} {w : Wiring} {files : List (Bytes × Access)}

theorem file?_placements (i : Invocation) (w : Wiring) : (placements i w).filterMap Placement.file? = i.files := by
  obtain ⟨argv, input, output⟩ := i
  obtain ⟨held, given, spare, group⟩ := w
  cases held <;> cases given <;> cases input <;> cases output <;> rfl

theorem Moved.filterMap_opened? (h : Moved source target trace r) : trace.filterMap opened? = [] := by
  cases h <;> rfl

theorem Tried.filterMap_opened? (h : Tried p trace (.ok ())) : trace.filterMap opened? = p.file?.toList := by
  cases h with
  | held h => exact h.filterMap_opened?
  | @opened _ path access _ _ moved _ h => exact congrArg ((path, access) :: ·) h.filterMap_opened?

/-- Streams that are in their places have come from their files. -/
theorem Placed.filterMap_opened? (h : Placed ps trace) : trace.filterMap opened? = ps.filterMap Placement.file? := by
  induction h with
  | nil => rfl
  | @cons p ps tried placed h _ ih =>
    rw [List.filterMap_append, h.filterMap_opened?, ih]
    cases hp : p.file? with
    | none => rw [List.filterMap_cons_none hp, Option.toList_none, List.nil_append]
    | some file => rw [List.filterMap_cons_some hp, Option.toList_some, List.singleton_append]

theorem opened?_eq_none {calls : List Call} (h : trace.map Event.call = calls)
    (hcalls : ∀ c ∈ calls, Opens [] c) : trace.filterMap opened? = [] := by
  rw [List.filterMap_eq_nil_iff]
  rintro ⟨c, r⟩ he
  have hc : Opens [] c := hcalls c (h ▸ List.mem_map_of_mem he)
  cases c with
  | openFile path access => exact absurd (hc path access rfl) List.not_mem_nil
  | _ => rfl

theorem opens_settling (w : Wiring) : ∀ c ∈ settling w, Opens files c := by
  intro c hc path access he
  subst he
  simp [settling] at hc

theorem opens_resetting : ∀ c ∈ resetting, Opens files c := by
  intro c hc path access he
  subst he
  simp [resetting] at hc

/-- A child that becomes a program has opened all its files, each once and in their order. -/
theorem Fate.opened {argv : List Bytes} (h : Fate i w trace (.execute argv)) :
    argv = i.argv ∧ trace.filterMap opened? = i.files := by
  cases h with
  | run hsettled hplaced hreset =>
    refine ⟨rfl, ?_⟩
    rw [List.filterMap_append, List.filterMap_append, opened?_eq_none hsettled (opens_settling w),
      hplaced.filterMap_opened?, opened?_eq_none hreset opens_resetting, file?_placements, List.nil_append,
      List.append_nil]

theorem Misplacing.exists_refused {m : Misplaced} (h : Misplacing ps trace m) :
    ∃ e ∈ trace, ¬ Descriptors.Succeeds e.call e.reply := by
  have moved : ∀ {source target : Descriptor} {trace : List Event} {e : Errno}, Moved source target trace (.error e) →
      ∃ e ∈ trace, ¬ Descriptors.Succeeds e.call e.reply := by
    rintro source target _ e (_ | ⟨-, -⟩ | ⟨-, -⟩)
    · exact ⟨_, List.mem_singleton_self _, id⟩
    · exact ⟨_, List.mem_cons_of_mem _ (List.mem_singleton_self _), id⟩
  induction h with
  | here h =>
    cases h with
    | held h => exact moved h
    | unopened e => exact ⟨_, List.mem_singleton_self _, id⟩
    | opened h =>
      obtain ⟨e, he, hrefused⟩ := moved h
      exact ⟨e, List.mem_cons_of_mem _ he, hrefused⟩
  | later _ _ ih =>
    obtain ⟨e, he, hrefused⟩ := ih
    exact ⟨e, List.mem_append_right _ he, hrefused⟩

theorem Own.exists_succeeds {c : Call} (h : Own c) (hc : ¬ Last c) : ∃ r, Descriptors.Succeeds c r := by
  rcases h with h | ⟨bytes, rfl⟩ | ⟨argv, rfl⟩ | ⟨code, rfl⟩
  · cases c with
    | setGroup pid group => exact ⟨.ok (), trivial⟩
    | close d => exact ⟨.ok (), trivial⟩
    | duplicate source target => exact ⟨.ok (), trivial⟩
    | openFile path access => exact ⟨.ok 0, trivial⟩
    | defaultSignal s => exact ⟨(), trivial⟩
    | unblockSignals => exact ⟨(), trivial⟩
    | _ => exact h.elim
  · exact ⟨.ok 0, trivial⟩
  · exact absurd trivial hc
  · exact absurd trivial hc

/-- A child to which nothing is refused becomes its program, and has opened its files before. -/
theorem comes_run (i : Invocation) (w : Wiring) : Prog.Comes Descriptors.Succeeds (fun trace c =>
    c = .execute i.argv ∧ trace.filterMap opened? = i.files) [] (run i w) := by
  refine (halts_run i w []).comes Last (fun trace c htrace harrives hc => ?_) fun trace c harrives hc =>
    (makes_run i w trace c harrives).exists_succeeds hc
  have hfate := (arrives_run_iff hc).mp harrives
  cases hfate with
  | misplaced _ hplaced =>
    obtain ⟨e, he, hrefused⟩ := hplaced.exists_refused
    exact absurd (htrace e (List.mem_append_right _ (List.mem_append_left _ he))).1 hrefused
  | @notRun _ _ _ _ e =>
    refine absurd (htrace ⟨.execute i.argv, e⟩ ?_).2 (not_not.mpr trivial)
    simp
  | run hsettled hplaced hreset => exact ⟨rfl, (Fate.run hsettled hplaced hreset).opened.2⟩

/-- A child asks for no files but its own. -/
theorem makes_run_opens (i : Invocation) (w : Wiring) : Makes (Opens i.files) (run i w) := by
  refine makes_run_of (opens_settling w) (makes_places_of nofun nofun fun p hp path access hfile => ?_) opens_resetting
    nofun nofun nofun
  rintro _ _ ⟨⟩
  rw [← file?_placements i w]
  exact List.mem_filterMap.mpr ⟨p, hp, by rw [Placement.file?, hfile]⟩

end Child

/-! ### Launches -/

namespace Launch

variable {p : Pipeline}

/-- The texts of a pipeline, stage by stage. -/
def texts (p : Pipeline) : List Text := p.stages.flatMap Stage.texts

theorem launch_of_offending (h : offending (texts p) = some t) : launch p = pure (.error (.nulByte t)) := by
  have hne : p.stages.isEmpty = false := by
    rw [List.isEmpty_eq_false_iff]
    intro hnil
    rw [texts, hnil] at h
    cases h
  rw [launch, hne, mapM_eq_checked ofStage_eq, checked, ← texts, h]
  rfl

theorem mapM_ofStage_of_sound (h : offending (texts p) = none) :
    p.stages.mapM Invocation.ofStage = .ok (p.stages.map Stage.invocation) := by
  rw [mapM_eq_checked ofStage_eq, checked, ← texts, h]
  rfl

/-- Without a zero in its texts, a stage has none in its bytes. -/
theorem zero_notMem_of_sound (h : offending (texts p) = none) {stage : Stage} (hstage : stage ∈ p.stages)
    {bytes : Bytes} (hbytes : bytes ∈ stage.invocation.argv ++ stage.invocation.files.map (·.1)) : 0 ∉ bytes := by
  have hencoded : ∃ t ∈ stage.texts, t.encode = bytes := by
    simpa [Stage.invocation, Stage.texts, Invocation.files, or_and_right, exists_or, Option.mem_toList] using hbytes
  obtain ⟨t, ht, rfl⟩ := hencoded
  rw [Text.zero_mem_encode_iff]
  exact offending_eq_none_iff.mp h t (List.mem_flatMap.mpr ⟨stage, hstage, ht⟩)

/-- No text with a zero reaches a call. If there is one, then the first is reported, and no call is made. If there is
none, then each stage has its child unless a call is refused, and the child is given the texts of its stage: it becomes
no other program, opens all files of the stage before, and asks for no other file. A child to which nothing is refused
does become its program. -/
theorem launch_gives_bytes (p : Pipeline) :
    (∀ t, offending (texts p) = some t → launch p = pure (.error (.nulByte t))) ∧
    (offending (texts p) = none →
      (∀ trace t, ¬ Prog.Runs (launch p) trace (.error (.nulByte t))) ∧
      (∀ trace q, Prog.Behind (launch p) (trace ++ [⟨.fork, .ok .child⟩]) q → ∃ stage w,
        p.stages[Prog.forked trace]? = some stage ∧ q = (Child.run stage.invocation w).never) ∧
      (∀ trace r, Prog.Runs (launch p) trace r →
        Prog.forked trace = p.stages.length ∨ ∃ f, r = .error f ∧ Refused f) ∧
      ∀ stage ∈ p.stages, ∀ bytes ∈ stage.invocation.argv ++ stage.invocation.files.map (·.1), 0 ∉ bytes) ∧
    ∀ (stage : Stage) w,
      (∀ trace c, Prog.Arrives (Child.run stage.invocation w) trace c →
        (∀ argv, c = .execute argv → argv = stage.args.map Text.encode ∧
          trace.filterMap Child.opened? = stage.invocation.files) ∧
        Child.Opens stage.invocation.files c) ∧
      Prog.Comes Descriptors.Succeeds (fun trace c => c = .execute (stage.args.map Text.encode) ∧
        trace.filterMap Child.opened? = stage.invocation.files) [] (Child.run stage.invocation w) := by
  refine ⟨fun t => launch_of_offending, fun h => ?_, fun stage w =>
    ⟨fun trace c hc => ⟨?_, Child.makes_run_opens stage.invocation w trace c hc⟩, Child.comes_run stage.invocation w⟩⟩
  · -- What the child is given is read off the fork, and how many forks there are off the end of the launch.
    have hstages := mapM_ofStage_of_sound h
    refine ⟨fun trace t hr => ?_, fun trace q hq => ?_, fun trace r hr => ?_, fun stage hstage bytes hbytes =>
      zero_notMem_of_sound h hstage hbytes⟩
    · rcases (ensures_launch_failure (k := false) p).runs hr _ rfl with hf | ⟨e, hf⟩ | ⟨pid, e, hf⟩
      · rw [hstages] at hf
        cases hf
      · rcases hf with hf | hf <;> cases hf
      · cases hf
    · obtain ⟨i, w, hi, rfl⟩ := (forksEach_launch hstages).behind hq
      rw [List.getElem?_map] at hi
      obtain ⟨stage, hstage, rfl⟩ := Option.map_eq_some_iff.mp hi
      exact ⟨stage, w, hstage, rfl⟩
    · obtain ⟨hle, hrest⟩ := (forksEach_launch hstages).runs hr
      refine hrest.imp_left fun hnil => ?_
      rw [List.drop_eq_nil_iff] at hnil
      rw [Nat.le_antisymm hle hnil, List.length_map]
  · rintro argv rfl
    exact ((Child.arrives_run_iff (c := .execute argv) trivial).mp hc).opened

/-- A stage whose texts are not all ASCII. -/
def accented : Stage := ⟨["cat".toList, "é".toList], none, some "ü".toList, by decide⟩

/-- A stage with a zero in a text. -/
def zeroed : Stage := ⟨["a\x00".toList], none, none, by decide⟩

/-- The one stage becomes its program with the UTF-8 forms of its texts; the other keeps both from being launched. -/
theorem launch_gives_bytes_accented :
    (launch ⟨[accented, zeroed], false⟩ = pure (.error (.nulByte "a\x00".toList))) ∧
    (∀ trace q, Prog.Behind (launch ⟨[accented], true⟩) (trace ++ [⟨.fork, .ok .child⟩]) q → ∃ stage w,
      [accented][Prog.forked trace]? = some stage ∧ q = (Child.run stage.invocation w).never) ∧
    Prog.Comes Descriptors.Succeeds (fun trace c => c = .execute [[0x63, 0x61, 0x74], [0xC3, 0xA9]] ∧
      trace.filterMap Child.opened? = [([0xC3, 0xBC], .replacing 0o644)]) []
      (Child.run accented.invocation ⟨none, none, none, some 0⟩) :=
  ⟨(launch_gives_bytes ⟨[accented, zeroed], false⟩).1 _ (by decide),
    ((launch_gives_bytes ⟨[accented], true⟩).2.1 (by decide)).2.1,
    ((launch_gives_bytes ⟨[accented], true⟩).2.2 accented _).2⟩

end Launch

end JobShell
