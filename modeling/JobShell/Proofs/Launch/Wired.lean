import JobShell.Proofs.Descriptor.System
import JobShell.Proofs.Launch.Stages

/-! # What the children of a launch find

A child of a launch finds its standard streams where its stage wants them, and everything else as the shell has it.
The shell and its children are looked at under one contract: the shell alone makes pipes and forks, and a child
becomes its program only when its descriptors are as they should be. -/

namespace JobShell.Launch
open Descriptors

/-- What the shell holds when a launch begins. -/
structure Origin where
  table : Table
  /-- How many pipes there have been. -/
  pipes : Nat
  /-- The pipes of the launch are not there yet. -/
  known : ∀ d e, table d = some e → e.file.Before pipes
  /-- The standard streams are open, and a program keeps them. -/
  standard : ∀ d < 3, ∃ f, table d = some ⟨f, false⟩

/-- What the `i`-th stage reads from: its file, or the pipe from the stage before, or what the shell reads from. -/
def Origin.Input (o : Origin) (names : Names) (i : Nat) (stage : Invocation) (f : File) : Prop :=
  match stage.input, i with
  | some path, _ => names path .reading f
  | none, 0 => o.table 0 = some ⟨f, false⟩
  | none, i + 1 => f = .reader (o.pipes + i)

/-- What the `i`-th of `n` stages writes to: its file, or the pipe to the stage after, or what the shell writes to. -/
def Origin.Output (o : Origin) (names : Names) (n i : Nat) (stage : Invocation) (f : File) : Prop :=
  match stage.output with
  | some path => names path (.replacing Child.createdMode) f
  | none => if i + 1 < n then f = .writer (o.pipes + i) else o.table 1 = some ⟨f, false⟩

/-- The descriptors that the program of the `i`-th stage begins with. -/
structure Wired (names : Names) (o : Origin) (n i : Nat) (stage : Invocation) (t : Table) : Prop where
  input : ∃ f, t 0 = some ⟨f, false⟩ ∧ o.Input names i stage f
  output : ∃ f, t 1 = some ⟨f, false⟩ ∧ o.Output names n i stage f
  others : ∀ d, d ≠ 0 → d ≠ 1 → t d = o.table.executed d

/-- What is known of a process: its descriptors, and which one of the processes it is. -/
structure Sight extends Holding where
  /-- The shell is the process 0, and the child of the `i`-th stage is the process `i + 1`. -/
  process : Nat
  /-- How many processes there are. -/
  processes : Nat

variable (names : Names) (o : Origin) (stages : List Invocation)

/-- A process is the program of its stage, and its descriptors are as they should be. -/
def Executes (process : Nat) (t : Table) (argv : List Bytes) : Prop :=
  ∃ i stage, process = i + 1 ∧ stages[i]? = some stage ∧ argv = stage.argv ∧ Wired names o stages.length i stage t

/-- Who may make a call. -/
def Permits : Call → Sight → Prop
  | .fork, k | .pipe, k => k.process = 0
  | .execute argv, k => Executes names o stages k.process k.table.executed argv
  | .executeFile _ _, _ | .service _, _ => False
  | _, _ => True

/-- A fork returns in both processes. -/
def Returns : (c : Call) → (c.Reply → Sight → Prop) → Sight → Prop
  | .fork, P, k => P (.ok .child) { k with process := k.processes } ∧
      ∀ pid, P (.ok (.parent pid)) { k with processes := k.processes + 1 }
  | _, _, _ => True

def contract : Contract Sight where
  pre c P k := Permits names o stages c k ∧ Returns c P k ∧
    ∀ r h, Succeeds c r → Answer names c k.toHolding r h → P r { k with toHolding := h }
  mono := by
    rintro c P Q k hPQ ⟨hp, hr, ha⟩
    refine ⟨hp, ?_, fun r h hs h' => hPQ r _ (ha r h hs h')⟩
    cases c with
    | fork => exact ⟨hPQ _ _ hr.1, fun pid => hPQ _ _ (hr.2 pid)⟩
    | _ => trivial

/-! ### Descriptors that come and go -/

/-- The table with a pipe end under a descriptor, if there is one. -/
def holding (t : Table) (held : Option Descriptor) (f : File) : Table :=
  held.elim t fun d => t.set d ⟨f, true⟩

/-- The table with a file as a standard stream, if there is one. -/
def stream (t : Table) (d : Descriptor) (f : Option File) : Table :=
  f.elim t fun f => t.set d ⟨f, false⟩

/-- A descriptor that was free is free again. -/
theorem clear_set {t : Table} {d : Descriptor} {e : Entry} (h : t d = none) : (t.set d e).clear d = t := by
  rw [Table.clear, Table.set, Function.update_idem, ← h, Function.update_eq_self]

theorem set_comm {t : Table} {d d' : Descriptor} {e e' : Entry} (h : d ≠ d') :
    (t.set d e).set d' e' = (t.set d' e').set d e :=
  Function.update_comm h _ _ t

theorem holding_comm {t : Table} {d d' : Option Descriptor} {f f' : File} (h : ∀ x ∈ d, x ∉ d') :
    holding (holding t d f) d' f' = holding (holding t d' f') d f := by
  cases d with
  | none => rfl
  | some d =>
    cases d' with
    | none => rfl
    | some d' => exact set_comm fun hd => h d rfl (hd ▸ rfl)

theorem stream_holding {t : Table} {d : Descriptor} {f : Option File} {held : Option Descriptor} {g : File}
    (h : d ∉ held) : stream (holding t held g) d f = holding (stream t d f) held g := by
  cases held with
  | none => rfl
  | some d' =>
    cases f with
    | none => rfl
    | some f => exact set_comm fun hd => h (hd ▸ rfl)

theorem holding_apply {t : Table} {d : Descriptor} {held : Option Descriptor} {f : File} (h : d ∉ held) :
    holding t held f d = t d := by
  cases held with
  | none => rfl
  | some d' => exact Function.update_of_ne (fun hd => h (congrArg some hd.symm)) _ _

theorem of_holding_eq_none {t : Table} {d : Descriptor} {held : Option Descriptor} {f : File}
    (h : holding t held f d = none) : t d = none ∧ d ∉ held := by
  have hd : d ∉ held := by
    rintro rfl
    rw [holding, Option.elim_some, Table.set, Function.update_self] at h
    cases h
  exact ⟨by rwa [holding_apply hd] at h, hd⟩

theorem stream_apply_of_ne {t : Table} {d d' : Descriptor} {f : Option File} (h : d' ≠ d) : stream t d f d' = t d' := by
  cases f with
  | none => rfl
  | some f => exact Function.update_of_ne h _ _

theorem stream_apply {t : Table} {d : Descriptor} {f : Option File} :
    stream t d f d = f.elim (t d) fun f => some ⟨f, false⟩ := by
  cases f with
  | none => rfl
  | some f => exact Function.update_self d _ t

theorem stream_ne_none {t : Table} {d d' : Descriptor} {f : Option File} (h : t d' ≠ none) :
    stream t d f d' ≠ none := by
  by_cases hd : d' = d
  · subst hd
    rw [stream_apply]
    cases f with
    | none => exact h
    | some f => exact Option.some_ne_none _
  · rwa [stream_apply_of_ne hd]

/-! ### Calls -/

section Calls
variable {names : Names} {o : Origin} {stages : List Invocation} {k : Sight}

def Sight.put (k : Sight) (t : Table) : Sight := { k with table := t }

theorem ensures_close (d : Descriptor) : (Prog.perform (.close d)).Ensures (contract names o stages)
    (fun r k' => r = .ok () ∧ k' = k.put (k.table.clear d)) k := by
  refine ⟨trivial, trivial, fun r h hs ha => ?_⟩
  cases r with
  | error e => exact hs.elim
  | ok a =>
    obtain ⟨-, rfl⟩ := ha
    exact ⟨rfl, rfl⟩

theorem ensures_duplicate {source target : Descriptor} {e : Entry} (he : k.table source = some e)
    (hne : source ≠ target) : (Prog.perform (.duplicate source target)).Ensures (contract names o stages)
    (fun r k' => r = .ok () ∧ k' = k.put (k.table.set target ⟨e.file, false⟩)) k := by
  refine ⟨trivial, trivial, fun r h hs ha => ?_⟩
  cases r with
  | error e => exact hs.elim
  | ok a =>
    obtain ⟨e', he', rfl⟩ := ha
    cases he.symm.trans he'
    rw [if_neg hne]
    exact ⟨rfl, rfl⟩

theorem ensures_open (path : Bytes) (access : Access) :
    (Prog.perform (.openFile path access)).Ensures (contract names o stages)
    (fun r k' => ∃ d f, r = .ok d ∧ k.table d = none ∧ names path access f ∧ k' = k.put (k.table.set d ⟨f, false⟩))
    k := by
  refine ⟨trivial, trivial, fun r h hs ha => ?_⟩
  cases r with
  | error e => exact hs.elim
  | ok d =>
    obtain ⟨hd, f, hf, rfl⟩ := ha
    exact ⟨d, f, rfl, hd, hf, rfl⟩

theorem ensures_drop (d : Descriptor) : (drop d).Ensures (contract names o stages)
    (fun _ k' => k' = k.put (k.table.clear d)) k :=
  Prog.ensures_bind ((ensures_close d).mono fun _ _ h => h.2)

theorem ensures_dropHeld {t : Table} {held : Option Descriptor} {f : File} (h : ∀ d ∈ held, t d = none)
    (hk : k.table = holding t held f) : (dropHeld held).Ensures (contract names o stages)
    (fun _ k' => k' = k.put t) k := by
  cases held with
  | none => exact Prog.ensures_pure (by rw [← show k.table = t from hk]; rfl)
  | some d =>
    refine (ensures_drop d).mono fun _ k' hk' => ?_
    rw [hk', hk, holding, Option.elim_some, clear_set (h d rfl)]

/-! ### The streams of a child -/

theorem ensures_move {t : Table} {source target : Descriptor} {e : Entry} (hs : t source = none) (ht : t target ≠ none)
    (hk : k.table = t.set source e) : (Child.move source target).Ensures (contract names o stages)
    (fun r k' => r = .ok () ∧ k' = k.put (stream t target (some e.file))) k := by
  have hne : source ≠ target := fun h => ht (h ▸ hs)
  have he : k.table source = some e := by rw [hk, Table.set, Function.update_self]
  rw [Child.move, if_neg hne]
  refine Prog.ensures_bind ((ensures_duplicate he hne).mono ?_)
  rintro _ _ ⟨rfl, rfl⟩
  refine (ensures_close source).mono ?_
  rintro _ _ ⟨rfl, rfl⟩
  refine ⟨rfl, ?_⟩
  have hclear : (t.set target ⟨e.file, false⟩) source = none := by rw [Table.set, Function.update_of_ne hne, hs]
  rw [show (k.put (k.table.set target ⟨e.file, false⟩)).table = k.table.set target ⟨e.file, false⟩ from rfl, hk,
    set_comm hne, clear_set hclear]
  rfl

theorem ensures_place_move {t : Table} {held : Option Descriptor} {target : Descriptor} {f : File} {what : Bytes}
    (h : ∀ d ∈ held, t d = none) (ht : t target ≠ none) (hk : k.table = holding t held f) :
    (Child.place (fun _ => what) (Child.move · target) held).run.Ensures (contract names o stages)
    (fun r k' => r = .ok () ∧ k' = k.put (stream t target (held.map fun _ => f))) k := by
  cases held with
  | none => exact Prog.ensures_pure ⟨rfl, by rw [← show k.table = t from hk]; rfl⟩
  | some d =>
    refine Prog.ensures_bind ((ensures_move (h d rfl) ht hk).mono ?_)
    rintro _ _ ⟨rfl, rfl⟩
    exact ⟨rfl, rfl⟩

theorem ensures_place_open {path : Option Bytes} {access : Access} {target : Descriptor}
    (ht : k.table target ≠ none) :
    (Child.place id (Child.openAs · access target) path).run.Ensures (contract names o stages)
    (fun r k' => r = .ok () ∧ ∃ f, Option.Rel (names · access ·) path f ∧ k' = k.put (stream k.table target f))
    k := by
  cases path with
  | none => exact Prog.ensures_pure ⟨rfl, none, .none, rfl⟩
  | some p =>
    refine Prog.ensures_bind (Prog.ensures_bind ((ensures_open p access).mono ?_))
    rintro _ _ ⟨d, f, rfl, hd, hf, rfl⟩
    refine (ensures_move hd ht rfl).mono ?_
    rintro _ _ ⟨rfl, rfl⟩
    exact ⟨rfl, some f, .some hf, rfl⟩

/-- The wiring of the `i`-th of `n` stages: which pipe ends there are, all of them under descriptors of their own. -/
structure Fits (o : Origin) (n i : Nat) (w : Wiring) : Prop where
  input : w.input.isSome ↔ 0 < i
  output : w.output.isSome ↔ i + 1 < n
  free : ∀ d, d ∈ w.input ∨ d ∈ w.spare ∨ d ∈ w.output → o.table d = none
  apart : ∀ d ∈ w.input, d ∉ w.spare ∧ d ∉ w.output
  distinct : ∀ d ∈ w.spare, d ∉ w.output

/-- The descriptors that the child of the `i`-th stage is forked with. -/
def forked (o : Origin) (i : Nat) (w : Wiring) : Table :=
  holding (holding (holding o.table w.input (.reader (o.pipes + i - 1))) w.spare (.reader (o.pipes + i)))
    w.output (.writer (o.pipes + i))

variable {n i : Nat} {w : Wiring}

theorem Fits.forked_eq (hw : Fits o n i w) : forked o i w = holding (holding (holding o.table w.spare
    (.reader (o.pipes + i))) w.output (.writer (o.pipes + i))) w.input (.reader (o.pipes + i - 1)) := by
  rw [forked, holding_comm fun d hd => (hw.apart d hd).1, holding_comm fun d hd => (hw.apart d hd).2]

theorem Fits.free_input (hw : Fits o n i w) : ∀ d ∈ w.input, holding (holding o.table w.spare
    (.reader (o.pipes + i))) w.output (.writer (o.pipes + i)) d = none := by
  intro d hd
  rw [holding_apply (hw.apart d hd).2, holding_apply (hw.apart d hd).1]
  exact hw.free d (.inl hd)

theorem ensures_settle (hw : Fits o n i w) (hk : k.table = forked o i w) :
    (Child.settle w).Ensures (contract names o stages) (fun _ k' => k' = k.put
      (holding (holding o.table w.output (.writer (o.pipes + i))) w.input (.reader (o.pipes + i - 1)))) k := by
  obtain ⟨input, output, spare, group⟩ := w
  -- The end that the stages share with the one after comes last, so that it can be taken away.
  have hk : k.table = holding (holding (holding o.table output (.writer (o.pipes + i))) input
      (.reader (o.pipes + i - 1))) spare (.reader (o.pipes + i)) := by
    rw [hk, forked, holding_comm hw.distinct, holding_comm fun d hd => (hw.apart d hd).2]
  have hfree : ∀ d ∈ spare, holding (holding o.table output (.writer (o.pipes + i))) input
      (.reader (o.pipes + i - 1)) d = none := by
    intro d hd
    rw [holding_apply fun h => (hw.apart d h).1 hd, holding_apply (hw.distinct d hd)]
    exact hw.free d (.inr (.inl hd))
  have close : (dropHeld spare).Ensures (contract names o stages) (fun _ k' => k' = k.put _) k :=
    ensures_dropHeld hfree hk
  cases group with
  | none => cases spare <;> exact close
  | some group =>
    refine ⟨trivial, trivial, ?_⟩
    rintro r _ - rfl
    cases spare <;> exact close

/-- No pipe end of a launch is under the number of a standard stream. -/
theorem Fits.notMem (hw : Fits o n i w) {d : Descriptor} (hd : d < 3) : d ∉ w.input ∧ d ∉ w.output := by
  obtain ⟨f, hf⟩ := o.standard d hd
  have hfree : ¬ (d ∈ w.input ∨ d ∈ w.spare ∨ d ∈ w.output) := fun h => by
    rw [hw.free d h] at hf
    cases hf
  exact ⟨fun h => hfree (.inl h), fun h => hfree (.inr (.inr h))⟩

/-- The streams of a child once the pipe ends and then the files have been put in place. -/
def streams (o : Origin) (i : Nat) (w : Wiring) (f g : Option File) : Table :=
  stream (stream (stream (stream o.table 0 (w.input.map fun _ => .reader (o.pipes + i - 1)))
    1 (w.output.map fun _ => .writer (o.pipes + i))) 0 f) 1 g

theorem wired_streams {stage : Invocation} {f g : Option File} (hw : Fits o n i w)
    (hf : Option.Rel (names · .reading ·) stage.input f)
    (hg : Option.Rel (names · (.replacing Child.createdMode) ·) stage.output g) :
    Wired names o n i stage (Table.executed (streams o i w f g)) := by
  have h0 : streams o i w f g 0 = f.elim ((w.input.map fun _ => File.reader (o.pipes + i - 1)).elim (o.table 0)
      fun f => some ⟨f, false⟩) fun f => some ⟨f, false⟩ := by
    rw [streams, stream_apply_of_ne Nat.zero_ne_one, stream_apply, stream_apply_of_ne Nat.zero_ne_one, stream_apply]
  have h1 : streams o i w f g 1 = g.elim ((w.output.map fun _ => File.writer (o.pipes + i)).elim (o.table 1)
      fun f => some ⟨f, false⟩) fun f => some ⟨f, false⟩ := by
    rw [streams, stream_apply, stream_apply_of_ne Nat.one_ne_zero, stream_apply, stream_apply_of_ne Nat.one_ne_zero]
  obtain ⟨argv, input, output⟩ := stage
  refine ⟨?_, ?_, fun d hd0 hd1 => ?_⟩
  -- What was put in place last counts: the file before the pipe, and the pipe before what the shell has.
  · rw [Table.executed, h0]
    cases hf with
    | some hf => exact ⟨_, rfl, hf⟩
    | none =>
      cases i with
      | zero =>
        have hnone : w.input = none := Option.not_isSome_iff_eq_none.mp fun h => absurd (hw.input.mp h) (by decide)
        obtain ⟨f, hf⟩ := o.standard 0 (by decide)
        exact ⟨f, by rw [hnone, Option.map_none, Option.elim_none, Option.elim_none, hf]; rfl, hf⟩
      | succ i =>
        obtain ⟨d, hd⟩ := Option.isSome_iff_exists.mp (hw.input.mpr i.succ_pos)
        exact ⟨_, by rw [hd]; rfl, rfl⟩
  · rw [Table.executed, h1]
    cases hg with
    | some hg => exact ⟨_, rfl, hg⟩
    | none =>
      by_cases hi : i + 1 < n
      · obtain ⟨d, hd⟩ := Option.isSome_iff_exists.mp (hw.output.mpr hi)
        exact ⟨_, by rw [hd]; rfl, by rw [Origin.Output, if_pos hi]⟩
      · have hnone : w.output = none := Option.not_isSome_iff_eq_none.mp fun h => hi (hw.output.mp h)
        obtain ⟨f, hf⟩ := o.standard 1 (by decide)
        refine ⟨f, by rw [hnone, Option.map_none, Option.elim_none, Option.elim_none, hf]; rfl, ?_⟩
        rw [Origin.Output, if_neg hi]
        exact hf
  · rw [Table.executed, Table.executed, streams, stream_apply_of_ne hd1, stream_apply_of_ne hd0,
      stream_apply_of_ne hd1, stream_apply_of_ne hd0]

theorem ensures_placeStreams {stage : Invocation} (hw : Fits o n i w)
    (hk : k.table = holding (holding o.table w.output (.writer (o.pipes + i))) w.input (.reader (o.pipes + i - 1))) :
    (Child.placeStreams stage w).run.Ensures (contract names o stages)
      (fun r k' => r = .ok () ∧ ∃ t, Wired names o n i stage (Table.executed t) ∧ k' = k.put t) k := by
  have opened : ∀ d < 3, o.table d ≠ none := fun d hd => by
    obtain ⟨f, hf⟩ := o.standard d hd
    rw [hf]
    exact Option.some_ne_none _
  have hinput : ∀ d ∈ w.input, holding o.table w.output (.writer (o.pipes + i)) d = none := fun d hd => by
    rw [holding_apply (hw.apart d hd).2]
    exact hw.free d (.inl hd)
  have houtput : ∀ d ∈ w.output, stream o.table 0 (w.input.map fun _ => .reader (o.pipes + i - 1)) d = none := by
    intro d hd
    have hne : d ≠ 0 := by
      rintro rfl
      exact (hw.notMem (by decide)).2 hd
    rw [stream_apply_of_ne hne]
    exact hw.free d (.inr (.inr hd))
  refine Prog.ensures_run_bind ((ensures_place_move hinput ?_ hk).mono ?_)
  · rw [holding_apply (hw.notMem (by decide)).2]
    exact opened 0 (by decide)
  rintro _ _ ⟨rfl, rfl⟩
  refine Prog.ensures_run_bind ((ensures_place_move houtput ?_ (stream_holding (hw.notMem (by decide)).2)).mono ?_)
  · exact stream_ne_none (opened 1 (by decide))
  rintro _ _ ⟨rfl, rfl⟩
  refine Prog.ensures_run_bind ((ensures_place_open ?_).mono ?_)
  · exact stream_ne_none (stream_ne_none (opened 0 (by decide)))
  rintro _ _ ⟨rfl, f, hf, rfl⟩
  refine (ensures_place_open ?_).mono ?_
  · exact stream_ne_none (stream_ne_none (stream_ne_none (opened 1 (by decide))))
  rintro _ _ ⟨rfl, g, hg, rfl⟩
  exact ⟨rfl, _, wired_streams hw hf hg, rfl⟩

theorem ensures_die (what : Bytes) (reason : Text) (code : Int) :
    (Child.die what reason code).Ensures (contract names o stages) (fun _ _ => True) k :=
  ensures_die_of (fun _ => True) trivial (fun _ _ _ => ⟨trivial, trivial, fun _ _ _ _ => trivial⟩) fun _ _ =>
    ⟨trivial, trivial, fun e => e.elim⟩

theorem ignores_defaultSignal (s : Signal) : (contract names o stages).Ignores (.defaultSignal s) := by
  intro P k hP
  refine ⟨trivial, trivial, ?_⟩
  rintro r _ - rfl
  exact hP r

theorem ensures_becomeProgram {stage : Invocation} (hp : k.process = i + 1) (hi : stages[i]? = some stage)
    (hk : Wired names o stages.length i stage k.table.executed) :
    (Child.becomeProgram stage).Ensures (contract names o stages) (fun _ _ => True) k := by
  refine Prog.ensures_bind ((ensures_defaultSignals_ignored ignores_defaultSignal _).mono ?_)
  rintro _ _ rfl
  refine ⟨trivial, trivial, ?_⟩
  rintro _ _ - rfl
  refine ⟨⟨i, stage, hp, hi, rfl, hk⟩, trivial, ?_⟩
  rintro e _ - rfl
  exact ensures_die _ _ _

theorem ensures_run {stage : Invocation} (hp : k.process = i + 1) (hi : stages[i]? = some stage)
    (hw : Fits o stages.length i w) (hk : k.table = forked o i w) :
    (Child.run stage w).Ensures (contract names o stages) (fun _ _ => True) k := by
  refine Prog.ensures_bind ((ensures_settle hw hk).mono ?_)
  rintro _ _ rfl
  refine Prog.ensures_bind ((ensures_placeStreams hw rfl).mono ?_)
  rintro _ _ ⟨rfl, t, ht, rfl⟩
  exact ensures_becomeProgram hp hi ht

/-! ### The shell -/

theorem ensures_start {stage : Invocation} (hp : k.process = 0) (hn : k.processes = i + 1)
    (hi : stages[i]? = some stage) (hw : Fits o stages.length i w) (hk : k.table = forked o i w) :
    (start stage w).Ensures (contract names o stages)
      (fun r k' => (∃ pid, r = .ok pid) ∧ k' = { k with processes := i + 2 }) k := by
  refine ⟨hp, ⟨Prog.ensures_never (ensures_run hn hi hw hk), fun pid => ?_⟩, fun r h hs ha => ?_⟩
  · rw [hn]
    obtain ⟨input, output, spare, group⟩ := w
    cases group with
    | none => exact Prog.ensures_pure ⟨⟨pid, rfl⟩, rfl⟩
    | some group =>
      refine ⟨trivial, trivial, ?_⟩
      rintro _ _ - rfl
      exact Prog.ensures_pure ⟨⟨pid, rfl⟩, rfl⟩
  · -- A fork that is replied to in one process only is one that was refused.
    cases r with
    | error e => exact hs.elim
    | ok r => exact ha.elim

/-- The descriptors of the shell when it comes to the `i`-th stage: it has all that it had before the launch, and the
read end of the pipe from the stage before. -/
structure Between (o : Origin) (i : Nat) (held : Option Descriptor) (k : Sight) : Prop where
  process : k.process = 0
  processes : k.processes = i + 1
  pipes : k.pipes = o.pipes + i
  table : k.table = holding o.table held (.reader (o.pipes + i - 1))
  isSome : held.isSome ↔ 0 < i
  free : ∀ d ∈ held, o.table d = none

/-- The ends of a new pipe and the end that is held are under descriptors of their own. -/
theorem Between.fits {held : Option Descriptor} {reader writer : Descriptor} {group : Option Pid}
    (hb : Between o i held k) (hn : i + 1 < n) (hne : reader ≠ writer) (hr : k.table reader = none)
    (hw : k.table writer = none) : Fits o n i ⟨held, some writer, some reader, group⟩ := by
  rw [hb.table] at hr hw
  obtain ⟨hr, hrh⟩ := of_holding_eq_none hr
  obtain ⟨hw, hwh⟩ := of_holding_eq_none hw
  refine ⟨hb.isSome, by simp [hn], ?_, ?_, by simpa using hne.symm⟩
  · rintro d (hd | hd | hd)
    · exact hb.free d hd
    · cases hd; exact hr
    · cases hd; exact hw
  · intro d hd
    refine ⟨fun h => ?_, fun h => ?_⟩
    · cases h; exact hrh hd
    · cases h; exact hwh hd

/-- The shell when all stages have been forked. -/
structure Complete (o : Origin) (n : Nat) (k : Sight) : Prop where
  process : k.process = 0
  processes : k.processes = n + 1
  table : k.table = o.table

theorem ensures_spawnStages {group : Option Pid} {held : Option Descriptor} {rest : List Invocation}
    (hrest : stages.drop i = rest) (hend : rest = [] → held = none) (hb : Between o i held k) :
    (spawnStages group held rest).Ensures (contract names o stages)
      (fun r k' => r.2 = none ∧ r.1.length = rest.length ∧ Complete o stages.length k') k := by
  -- The induction is on the stages that are left; the shell comes to each of them with `Between`.
  induction rest generalizing group held i k with
  | nil =>
    -- An end that is held comes from a stage before, so there was none.
    have hi : i = 0 := Nat.eq_zero_of_not_pos fun h => by
      rw [hend rfl] at hb
      exact absurd (hb.isSome.mpr h) (by decide)
    subst hi
    rw [List.drop_zero] at hrest
    subst hrest
    refine Prog.ensures_pure ⟨rfl, rfl, hb.process, hb.processes, ?_⟩
    rw [hb.table, hend rfl]
    rfl
  | cons stage rest ih =>
    have hlength : stages.length - i = (stage :: rest).length := by rw [← hrest, List.length_drop]
    rw [List.length_cons] at hlength
    have hi : stages[i]? = some stage := by
      rw [← List.head?_drop, hrest]
      rfl
    cases rest with
    | nil =>
      have hn : stages.length = i + 1 := by rw [List.length_nil] at hlength; omega
      have hw : Fits o stages.length i ⟨held, none, none, group⟩ :=
        ⟨hb.isSome, by simp [hn], fun d hd => by simpa using hb.free d (by simpa using hd), by simp, by simp⟩
      refine Prog.ensures_bind ((ensures_start hb.process hb.processes hi hw hb.table).mono ?_)
      rintro _ _ ⟨⟨pid, rfl⟩, rfl⟩
      refine Prog.ensures_bind ((ensures_dropHeld (k := { k with processes := i + 2 }) hb.free hb.table).mono ?_)
      rintro _ _ rfl
      exact Prog.ensures_pure ⟨rfl, rfl, hb.process, by rw [hn]; rfl, rfl⟩
    | cons next rest =>
      have hn : i + 1 < stages.length := by rw [List.length_cons] at hlength; omega
      refine Prog.ensures_perform ⟨hb.process, trivial, fun r h hs ha => ?_⟩
      cases r with
      | error e => exact hs.elim
      | ok ends =>
        obtain ⟨reader, writer⟩ := ends
        obtain ⟨hne, hr, hw, rfl⟩ := ha
        have hfits : Fits o stages.length i ⟨held, some writer, some reader, group⟩ := hb.fits hn hne hr hw
        have hk : (k.table.set reader ⟨.reader k.pipes, true⟩).set writer ⟨.writer k.pipes, true⟩ =
            forked o i ⟨held, some writer, some reader, group⟩ := by
          rw [hb.table, hb.pipes]
          rfl
        rw [hk, hb.pipes]
        refine Prog.ensures_bind ((ensures_start (k := ⟨⟨forked o i ⟨held, some writer, some reader, group⟩,
          o.pipes + i + 1⟩, k.process, k.processes⟩) hb.process hb.processes hi hfits rfl).mono ?_)
        rintro _ _ ⟨⟨pid, rfl⟩, rfl⟩
        refine Prog.ensures_bind ((ensures_dropHeld hfits.free_input hfits.forked_eq).mono ?_)
        rintro _ _ rfl
        refine Prog.ensures_bind ((ensures_drop writer).mono ?_)
        rintro _ _ rfl
        -- The read end of the new pipe is all that is left, as `Between` says of the next stage.
        have hfree : holding o.table (some reader) (.reader (o.pipes + i)) writer = none := by
          rw [holding_apply fun h => hne (Option.some.inj h)]
          exact hfits.free writer (.inr (.inr rfl))
        refine Prog.ensures_bind ((ih (i := i + 1) ?_ (by simp) ?_).mono ?_)
        · rw [← List.tail_drop, hrest, List.tail_cons]
        · exact ⟨hb.process, rfl, rfl, clear_set hfree, by simp, fun d hd => hfits.free d (.inr (.inl hd))⟩
        · rintro ⟨pids, failure⟩ k' ⟨rfl, hl, hc⟩
          exact Prog.ensures_pure ⟨rfl, congrArg (· + 1) hl, hc⟩

theorem ensures_spawn (grouped : Bool) (hk : k = ⟨⟨o.table, o.pipes⟩, 0, 1⟩) :
    (spawn grouped stages).Ensures (contract names o stages)
      (fun r k' => (∃ pids, r = .ok pids ∧ pids.length = stages.length) ∧ Complete o stages.length k') k := by
  subst hk
  refine Prog.ensures_bind ((ensures_spawnStages (i := 0) List.drop_zero (fun _ => rfl)
    ⟨rfl, rfl, rfl, rfl, by simp, by simp⟩).mono ?_)
  rintro ⟨pids, failure⟩ k ⟨rfl, hl, hc⟩
  exact Prog.ensures_pure ⟨⟨pids, rfl, hl⟩, hc⟩

end Calls

end JobShell.Launch
