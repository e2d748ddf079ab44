import JobShell.Proofs.Launch.Apart

/-! # A pipe end that is in its place already

An end of a pipe is closed when its holder becomes another program. A child puts it in the place of a stream under
another number, where it is kept. But an end that has the number of its stream already is not put anywhere, and so the
program begins without the stream. This is where an end can come to if the shell itself has begun without a stream. -/

namespace JobShell.Launch
open Descriptors
open Child (Placement placements)

/-- An entry stays under its number. What is known is the table of the process. -/
def keeping (names : Names) (d : Descriptor) (e : Entry) : Contract Table where
  pre c P t := t d = some e ∧ ∀ r h, Answer names c ⟨t, 0⟩ r h → P r h.table
  mono hPQ h := ⟨h.1, fun r h' ha => hPQ r _ (h.2 r h' ha)⟩

variable {α : Type} {names : Names} {d source target : Descriptor} {e : Entry} {t : Table} {i : Invocation} {w : Wiring}
  {p p' : Process α}

/-! ### The calls of a child -/

theorem keeping_pre_quiet {c : Call} {P : c.Reply → Table → Prop} (ht : t d = some e)
    (hc : ∀ h r h', Answer names c h r h' → h' = h) (hP : ∀ r, P r t) : (keeping names d e).pre c P t :=
  ⟨ht, fun r h ha => by rw [hc _ r h ha]; exact hP r⟩

theorem ensures_keeping_close (ht : t d = some e) (hne : source ≠ d) :
    (Prog.perform (.close source)).Ensures (keeping names d e) (fun _ t' => t' d = some e) t := by
  refine ⟨ht, ?_⟩
  rintro (f | _) h ha
  · obtain rfl : h = _ := ha
    exact ht
  · obtain ⟨-, rfl⟩ := ha
    exact (Function.update_of_ne hne.symm _ _).trans ht

theorem ensures_keeping_move (ht : t d = some e) (h : source = d ↔ target = d) :
    (Child.move source target).Ensures (keeping names d e) (fun _ t' => t' d = some e) t := by
  unfold Child.move
  split
  · exact Prog.ensures_pure ht
  rename_i hne
  -- Numbers that are not the same cannot both be that of the entry.
  have hsource : source ≠ d := fun hs => hne (hs.trans (h.mp hs).symm)
  have htarget : target ≠ d := fun ht => hsource (h.mpr ht)
  refine ⟨ht, ?_⟩
  rintro (f | _) h ha
  · obtain rfl : h = _ := ha
    exact Prog.ensures_pure ht
  · obtain ⟨e', -, rfl⟩ := ha
    rw [if_neg hne]
    exact ensures_keeping_close ((Function.update_of_ne htarget.symm _ _).trans ht) hsource

/-- A placement takes the entry for its own stream, or leaves it alone. -/
def Spares (d : Descriptor) (p : Placement) : Prop :=
  match p.source with
  | .held source => source = d ↔ p.target = d
  | .file _ _ => p.target ≠ d

theorem ensures_keeping_try {p : Placement} (ht : t d = some e) (h : Spares d p) :
    p.try.Ensures (keeping names d e) (fun _ t' => t' d = some e) t := by
  obtain ⟨what, source | ⟨path, access⟩, target⟩ := p
  · exact ensures_keeping_move ht h
  · refine ⟨ht, ?_⟩
    rintro (f | source) h' ha
    · obtain rfl : h' = _ := ha
      exact Prog.ensures_pure ht
    · obtain ⟨hfree, f, -, rfl⟩ := ha
      have hsource : source ≠ d := by
        rintro rfl
        exact Option.some_ne_none e (ht.symm.trans hfree)
      exact ensures_keeping_move ((Function.update_of_ne hsource.symm _ _).trans ht) (iff_of_false hsource h)

theorem ensures_keeping_places {ps : List Placement} (ht : t d = some e) (h : ∀ p ∈ ps, Spares d p) :
    (ps.forM Placement.place).run.Ensures (keeping names d e) (fun _ t' => t' d = some e) t := by
  induction ps generalizing t with
  | nil => exact Prog.ensures_pure ht
  | cons p ps ih =>
    obtain ⟨hp, hps⟩ := List.forall_mem_cons.mp h
    refine Prog.ensures_run_bind (Prog.ensures_bind ((ensures_keeping_try ht hp).mono ?_))
    rintro (f | _) t' ht'
    · exact Prog.ensures_pure ht'
    · exact Prog.ensures_pure (ih ht' hps)

theorem ensures_keeping_inTurn {calls : List Call} (ht : t d = some e)
    (h : ∀ c ∈ calls, ∀ t, t d = some e → (Prog.perform c).Ensures (keeping names d e) (fun _ t' => t' d = some e) t) :
    (Prog.inTurn calls).Ensures (keeping names d e) (fun _ t' => t' d = some e) t := by
  induction calls generalizing t with
  | nil => exact Prog.ensures_pure ht
  | cons c calls ih =>
    obtain ⟨hc, hcalls⟩ := List.forall_mem_cons.mp h
    exact (keeping names d e).mono (fun _ _ ht' => ih ht' hcalls) (hc t ht)

theorem ensures_keeping_run (ht : t d = some e) (hspare : d ∉ w.spare) (h : ∀ p ∈ placements i w, Spares d p) :
    (Child.run i w).Ensures (keeping names d e) (fun _ _ => True) t := by
  have hdie : ∀ what reason code t, t d = some e →
      (Child.die what reason code).Ensures (keeping names d e) (fun _ _ => True) t := fun what reason code t ht =>
    ensures_die_of (fun t => t d = some e) ht (fun _ _ ht => keeping_pre_quiet ht (fun _ _ _ ha => ha) fun _ => ht)
      fun _ ht => ⟨ht, fun r => r.elim⟩
  rw [Child.run_eq]
  refine Prog.ensures_bind ((ensures_keeping_inTurn ht fun c hc t ht => ?_).mono fun _ t ht => ?_)
  · rcases List.mem_append.mp hc with hc | hc
    · obtain ⟨group, -, rfl⟩ := List.mem_map.mp hc
      exact keeping_pre_quiet ht (fun _ _ _ ha => ha) fun _ => ht
    · obtain ⟨spare, hs, rfl⟩ := List.mem_map.mp hc
      refine ensures_keeping_close ht ?_
      rintro rfl
      exact hspare (Option.mem_toList.mp hs)
  refine Prog.ensures_bind ((ensures_keeping_places ht h).mono ?_)
  rintro (m | _) t ht
  · exact hdie _ _ _ t ht
  refine Prog.ensures_bind ((ensures_keeping_inTurn ht fun c hc t ht => ?_).mono fun _ t ht => ?_)
  · rcases List.mem_append.mp hc with hc | hc
    · obtain ⟨s, -, rfl⟩ := List.mem_map.mp hc
      exact keeping_pre_quiet ht (fun _ _ _ ha => ha) fun _ => ht
    · obtain rfl := List.mem_singleton.mp hc
      exact keeping_pre_quiet ht (fun _ _ _ ha => ha) fun _ => ht
  · exact keeping_pre_quiet ht (fun _ _ _ ha => ha) fun _ => hdie _ _ _ t ht

/-! ### From step to step -/

/-- The entry is under its number, and will be closed. -/
def Loses (names : Names) (d : Descriptor) (e : Entry) (p : Process α) : Prop :=
  match p.activity with
  | .running q => q.Ensures (keeping names d e) (fun _ _ => True) p.table
  | .executing _ => p.table d = none
  | .gone => True

theorem Loses.step (he : e.closedByExecute = true) (h : Loses names d e p) (hs : Alone names p p') :
    Loses names d e p' := by
  cases hs with
  | @call table table' c next r ha => exact h.2 r _ (ha 0)
  | @execute table c next argv hc =>
    have ht : table d = some e := h.1
    show Option.filter _ (table d) = none
    rw [ht, Option.filter_some_neg (by simp [he])]
  | exit => trivial
  | unroll => exact Prog.Ensures.unroll h
  | kill => trivial

/-- If the end of a pipe has the number of its stream already, and the stream comes from nowhere else, then the program
begins without the stream. -/
theorem end_in_place_lost (he : e.closedByExecute = true) (ht : t d = some e) (hspare : d ∉ w.spare)
    (h : ∀ p ∈ placements i w, Spares d p) {t' : Table} {argv : List Bytes}
    (hs : Relation.ReflTransGen (Alone names) (⟨t, .running (Child.run i w).never⟩ : Process α) ⟨t', .executing argv⟩) :
    t' d = none := by
  suffices hall : ∀ p, Relation.ReflTransGen (Alone names) (⟨t, .running (Child.run i w).never⟩ : Process α) p →
      Loses names d e p from hall _ hs
  intro p hp
  induction hp with
  | refl => exact Prog.ensures_never (ensures_keeping_run ht hspare h)
  | tail _ hstep ih => exact ih.step he hstep

/-! ### A child that reads from its own place -/

/-- A process by itself comes to its program by calls that are nothing to its descriptors. -/
theorem alone_executing {q : Prog α} {trace : List Prog.Event} {c : Call} {argv : List Bytes}
    (h : Prog.Arrives q trace c) (hc : argv? c = some argv) (hquiet : ∀ e ∈ trace, ∀ h, Answer names e.call h e.reply h) :
    Relation.ReflTransGen (Alone names) (⟨t, .running q⟩ : Process α) ⟨t.executed, .executing argv⟩ := by
  induction h with
  | here => exact .single (.execute hc)
  | call _ ih =>
    obtain ⟨hanswer, hrest⟩ := List.forall_mem_cons.mp hquiet
    exact .head (.call fun n => hanswer ⟨t, n⟩) (ih hc hrest)
  | loop _ ih => exact .head .unroll (ih hc hquiet)

/-- The end to read from is number 0 already. -/
def inPlace : Table := Table.none.set 0 ⟨.reader 0, true⟩

/-- Nothing is done to the end before the program begins. -/
theorem end_in_place_lost_reader :
    Relation.ReflTransGen (Alone fun _ _ _ => False)
      (⟨inPlace, .running (Child.run ⟨[[98]], none, none⟩ ⟨some 0, none, none, none⟩).never⟩ : Process Empty)
      ⟨inPlace.executed, .executing [[98]]⟩ ∧ inPlace.executed 0 = none := by
  have harrives : Prog.Arrives ((Child.run ⟨[[98]], none, none⟩ ⟨some 0, none, none, none⟩).never : Prog Empty) resets
      (.execute [[98]]) := .call (.call (.call (.call (.call (.call (.call (.call .here)))))))
  have hs : Relation.ReflTransGen (Alone fun _ _ _ => False) ⟨inPlace, _⟩ _ :=
    alone_executing harrives rfl fun e he => (quiet_of_mem_resets e he).2
  refine ⟨hs, end_in_place_lost (e := ⟨.reader 0, true⟩) rfl rfl (by decide) (fun p hp => ?_) hs⟩
  cases List.mem_singleton.mp hp
  exact Iff.rfl

/-! ### A shell without a standard input -/

def noInput : Table := fun d => if d = 1 ∨ d = 2 then some ⟨.other d, false⟩ else none

/-- A program that writes to another, which reads from it. -/
def readingStages : List Invocation := [⟨[[97]], none, none⟩, ⟨[[98]], none, none⟩]

/-- No call is refused, and the numbers are the lowest that are free. Yet the second program has nothing to read
from. -/
theorem reaches_end_lost : ∃ (s : System (Except Failure (List Pid))) (t₁ t₂ : Table),
    System.Reaches (fun _ _ _ => False) Succeeds (.start noInput 0 (spawn false readingStages)) s ∧
      s.processes[1]? = some ⟨t₁, .executing [[97]]⟩ ∧ t₁ 1 = some ⟨.writer 0, false⟩ ∧
      s.processes[2]? = some ⟨t₂, .executing [[98]]⟩ ∧ t₂ 0 = none := by
  have h : System.Reaches (fun _ _ _ => False) Succeeds (.start noInput 0 (spawn false readingStages)) _ := .refl
  replace h := h.tail (@System.Step.pipe _ _ _ _ 0 _ _ 0 3 rfl trivial (by decide) rfl rfl)
  replace h := h.tail (.fork (q := 0) 71 rfl trivial)
  replace h := h.tail (.close (q := 1) rfl trivial rfl)
  replace h := h.tail (.duplicate (q := 1) rfl trivial (by decide) rfl)
  replace h := h.tail (.close (q := 1) rfl trivial rfl)
  replace h := h.trans (reaches_program (q := 1) rfl
    (.call (.call (.call (.call (.call (.call (.call (.call .here)))))))))
  replace h := h.tail (.close (q := 0) rfl trivial rfl)
  replace h := h.tail (.fork (q := 0) 72 rfl trivial)
  replace h := h.tail (.close (q := 0) rfl trivial rfl)
  replace h := h.trans (reaches_program (q := 2) rfl
    (.call (.call (.call (.call (.call (.call (.call (.call .here)))))))))
  exact ⟨_, _, _, h, rfl, rfl, rfl, rfl⟩

end JobShell.Launch
