import JobShell.Proofs.Launch.Wired
import JobShell.Proofs.Prog.Trace

/-! # The wiring of a launch

Whatever the order in which the shell and its children take their steps, each child becomes its program with its
streams wired and with no other end of a pipe of the launch, and the shell is left with the descriptors that it had.
What carries the proof is that each process keeps to the contract for what is left of its program. -/

namespace JobShell.Launch
open Descriptors

variable (names : Names) (o : Origin) (stages : List Invocation)

/-- What the shell has when the launch has returned. -/
def Returned (r : Except Failure (List Pid)) (k : Sight) : Prop :=
  (∃ pids, r = .ok pids ∧ pids.length = stages.length) ∧ Complete o stages.length k

/-- A process does what a process of a launch may do. -/
def Keeps (k : Sight) : Activity (Except Failure (List Pid)) → Prop
  | .running p => p.Ensures (contract names o stages) (Returned o stages) k
  | .executing argv => Executes names o stages k.process k.table argv
  | .gone => k.table = .none

/-- The `q`-th process, whose number of pipes and of processes counts only if it is the shell. -/
def Stands (pipes processes q : Nat) (p : Process (Except Failure (List Pid))) : Prop :=
  ∃ k : Sight, k.process = q ∧ k.table = p.table ∧ (q = 0 → k.pipes = pipes ∧ k.processes = processes) ∧
    Keeps names o stages k p.activity

def Sound (s : System (Except Failure (List Pid))) : Prop :=
  ∀ q p, s.processes[q]? = some p → Stands names o stages s.pipes s.processes.length q p

section Steps
variable {names : Names} {o : Origin} {stages : List Invocation} {s s' : System (Except Failure (List Pid))}

theorem sound_start (grouped : Bool) : Sound names o stages (.start o.table o.pipes (spawn grouped stages)) := by
  intro q p hp
  obtain ⟨rfl, rfl⟩ : q = 0 ∧ p = ⟨o.table, .running (spawn grouped stages)⟩ := by
    cases q with
    | zero => exact ⟨rfl, (Option.some.inj hp).symm⟩
    | succ q => cases hp
  exact ⟨⟨⟨o.table, o.pipes⟩, 0, 1⟩, rfl, rfl, fun _ => ⟨rfl, rfl⟩, ensures_spawn grouped rfl⟩

/-- A child does not care how many pipes and processes there are. -/
theorem Stands.of_ne {pipes processes pipes' processes' q : Nat} {p : Process (Except Failure (List Pid))}
    (h : Stands names o stages pipes processes q p) (hq : q ≠ 0) : Stands names o stages pipes' processes' q p := by
  obtain ⟨k, hk, ht, -, hp⟩ := h
  exact ⟨k, hk, ht, fun h => absurd h hq, hp⟩

/-- One process goes on; only the shell makes pipes. -/
theorem Sound.put (hs : Sound names o stages s) {q pipes : Nat} {p : Process (Except Failure (List Pid))}
    (hp : Stands names o stages pipes s.processes.length q p) (hpipes : q = 0 ∨ pipes = s.pipes) :
    Sound names o stages { s.put q p with pipes } := by
  intro q' p' (hp' : (s.processes.set q p)[q']? = some p')
  rw [show ({ s.put q p with pipes } : System _).processes.length = s.processes.length from List.length_set]
  rw [List.getElem?_set] at hp'
  by_cases hq : q = q'
  · subst hq
    rw [if_pos rfl] at hp'
    split at hp'
    · cases hp'
      exact hp
    · cases hp'
  · rw [if_neg hq] at hp'
    rcases hpipes with rfl | rfl
    · exact (hs q' p' hp').of_ne fun h => hq h.symm
    · exact hs q' p' hp'

theorem Sound.fork (hs : Sound names o stages s) {p c : Process (Except Failure (List Pid))}
    (hp : Stands names o stages s.pipes (s.processes.length + 1) 0 p)
    (hc : Stands names o stages s.pipes (s.processes.length + 1) s.processes.length c) :
    Sound names o stages { s with processes := s.processes.set 0 p ++ [c] } := by
  intro q p' (hq : (s.processes.set 0 p ++ [c])[q]? = some p')
  rw [show ({ s with processes := s.processes.set 0 p ++ [c] } : System _).processes.length = s.processes.length + 1 by
    rw [List.length_append, List.length_set, List.length_singleton]]
  rw [List.getElem?_append, List.length_set] at hq
  by_cases hlt : q < s.processes.length
  · rw [if_pos hlt] at hq
    by_cases hzero : q = 0
    · subst hzero
      rw [List.getElem?_set_self hlt] at hq
      cases hq
      exact hp
    · rw [List.getElem?_set_ne (Ne.symm hzero)] at hq
      exact (hs q p' hq).of_ne hzero
  · rw [if_neg hlt, List.getElem?_singleton] at hq
    obtain ⟨hle, hc'⟩ := Option.ite_none_right_eq_some.mp hq
    cases hc'
    cases Nat.le_antisymm (Nat.le_of_sub_eq_zero hle) (Nat.le_of_not_lt hlt)
    exact hc

/-- But for a pipe and a service, a call does the same however many pipes there are. -/
theorem answer_pipes {c : Call} {h h' : Holding} {r : c.Reply} (hp : c ≠ .pipe) (hs : ∀ x, c ≠ .service x)
    (ha : Answer names c h r h') : h'.pipes = h.pipes ∧ ∀ n, Answer names c ⟨h.table, n⟩ r ⟨h'.table, n⟩ := by
  cases c with
  | pipe => exact absurd rfl hp
  | service x => exact absurd rfl (hs x)
  | openFile path access =>
    cases r with
    | error e => cases ha; exact ⟨rfl, fun _ => rfl⟩
    | ok d =>
      obtain ⟨hd, f, hf, rfl⟩ := ha
      exact ⟨rfl, fun n => ⟨hd, f, hf, rfl⟩⟩
  | close d =>
    cases r with
    | error e => cases ha; exact ⟨rfl, fun _ => rfl⟩
    | ok a =>
      obtain ⟨he, rfl⟩ := ha
      exact ⟨rfl, fun n => ⟨he, rfl⟩⟩
  | duplicate source target =>
    cases r with
    | error e => cases ha; exact ⟨rfl, fun _ => rfl⟩
    | ok a =>
      obtain ⟨e, he, rfl⟩ := ha
      refine ⟨?_, fun n => ⟨e, he, ?_⟩⟩ <;> split <;> rfl
  | fork =>
    cases r with
    | error e => cases ha; exact ⟨rfl, fun _ => rfl⟩
    | ok a => exact ha.elim
  | _ => cases ha; exact ⟨rfl, fun _ => rfl⟩

theorem sound_step (hs : Sound names o stages s) (h : System.Step names Succeeds s s') : Sound names o stages s' := by
  -- A process that is gone is nothing that the contract is about.
  have gone : ∀ q, Sound names o stages (s.put q ⟨.none, .gone⟩) := fun q =>
    hs.put ⟨⟨⟨.none, s.pipes⟩, q, s.processes.length⟩, rfl, rfl, fun _ => ⟨rfl, rfl⟩, rfl⟩ (.inr rfl)
  cases h with
  | @call q table c next r h hp hm ha =>
    obtain ⟨⟨⟨t, n⟩, q, m⟩, rfl, rfl, hshell, hpermits, -, hanswer⟩ := hs q _ hp
    -- A child makes no pipes, and so its calls are the same with the number that it was forked with.
    by_cases hq : q = 0
    · obtain ⟨rfl, rfl⟩ := hshell hq
      exact hs.put ⟨⟨h, q, _⟩, rfl, rfl, fun _ => ⟨rfl, rfl⟩, hanswer r h hm ha⟩ (.inl hq)
    · have hpipe : c ≠ .pipe := by
        rintro rfl
        exact hq hpermits
      have hservice : ∀ x, c ≠ .service x := by
        rintro x rfl
        exact hpermits
      obtain ⟨hpipes, hother⟩ := answer_pipes hpipe hservice ha
      exact hs.put ⟨⟨⟨h.table, n⟩, q, m⟩, rfl, rfl, fun h => absurd h hq, hanswer r ⟨h.table, n⟩ hm (hother n)⟩
        (.inr hpipes)
  | @fork q table next pid hp hm =>
    obtain ⟨⟨⟨t, n⟩, q, m⟩, rfl, rfl, hshell, hpermits, ⟨hchild, hparent⟩, -⟩ := hs q _ hp
    obtain rfl : q = 0 := hpermits
    obtain ⟨rfl, rfl⟩ := hshell rfl
    have hne : s.processes.length ≠ 0 := fun h => by
      rw [List.eq_nil_of_length_eq_zero h] at hp
      cases hp
    exact hs.fork ⟨⟨⟨t, s.pipes⟩, 0, s.processes.length + 1⟩, rfl, rfl, fun _ => ⟨rfl, rfl⟩, hparent pid⟩
      ⟨⟨⟨t, s.pipes⟩, s.processes.length, s.processes.length⟩, rfl, rfl, fun h => absurd h hne, hchild⟩
  | @execute q table c next argv hp hc =>
    obtain ⟨⟨⟨t, n⟩, q, m⟩, rfl, rfl, hshell, hpermits, -, -⟩ := hs q _ hp
    cases c with
    | execute argv' =>
      cases hc
      exact hs.put ⟨⟨⟨t.executed, n⟩, q, m⟩, rfl, rfl, hshell, hpermits⟩ (.inr rfl)
    | executeFile path argv' => exact hpermits.elim
    | _ => cases hc
  | @exit q table code next hp => exact gone q
  | @unroll q table σ β body t next hp =>
    obtain ⟨k, hk, ht, hshell, hkeeps⟩ := hs q _ hp
    exact hs.put ⟨k, hk, ht, hshell, Prog.Ensures.unroll hkeeps⟩ (.inr rfl)
  | @kill q p hp => exact gone q

theorem sound_reaches {grouped : Bool}
    (hs : System.Reaches names Succeeds (.start o.table o.pipes (spawn grouped stages)) s) : Sound names o stages s := by
  induction hs with
  | refl => exact sound_start grouped
  | tail _ h ih => exact sound_step ih h

/-! ### Who holds the pipes -/

/-- The paths of a stage lead to no pipe of the launch. -/
def Foreign (names : Names) (o : Origin) (stage : Invocation) : Prop :=
  (∀ path ∈ stage.input, ∀ f, names path .reading f → f.Before o.pipes) ∧
    ∀ path ∈ stage.output, ∀ f, names path (.replacing Child.createdMode) f → f.Before o.pipes

theorem Origin.Input.before_or {i : Nat} {stage : Invocation} {f : File} (h : o.Input names i stage f)
    (hf : Foreign names o stage) :
    f.Before o.pipes ∨ stage.input = none ∧ ∃ j, i = j + 1 ∧ f = .reader (o.pipes + j) := by
  obtain ⟨argv, input, output⟩ := stage
  cases input with
  | some path => exact .inl (hf.1 path rfl f h)
  | none =>
    cases i with
    | zero => exact .inl (o.known 0 _ h)
    | succ j => exact .inr ⟨rfl, j, rfl, h⟩

theorem Origin.Output.before_or {n i : Nat} {stage : Invocation} {f : File} (h : o.Output names n i stage f)
    (hf : Foreign names o stage) :
    f.Before o.pipes ∨ stage.output = none ∧ i + 1 < n ∧ f = .writer (o.pipes + i) := by
  obtain ⟨argv, input, output⟩ := stage
  cases output with
  | some path => exact .inl (hf.2 path rfl f h)
  | none =>
    have h : if i + 1 < n then f = .writer (o.pipes + i) else o.table 1 = some ⟨f, false⟩ := h
    by_cases hi : i + 1 < n
    · rw [if_pos hi] at h
      exact .inr ⟨rfl, hi, h⟩
    · rw [if_neg hi] at h
      exact .inl (o.known 1 _ h)

/-- The program of a stage begins with at most two ends of pipes of the launch, as its standard streams. -/
theorem Wired.before_or {n i : Nat} {stage : Invocation} {t : Table} {d : Descriptor} {e : Entry}
    (h : Wired names o n i stage t) (hf : Foreign names o stage) (he : t d = some e) : e.file.Before o.pipes ∨
      (d = 0 ∧ stage.input = none ∧ ∃ j, i = j + 1 ∧ e.file = .reader (o.pipes + j)) ∨
      (d = 1 ∧ stage.output = none ∧ i + 1 < n ∧ e.file = .writer (o.pipes + i)) := by
  by_cases h0 : d = 0
  · subst h0
    obtain ⟨f, ht, hin⟩ := h.input
    cases ht.symm.trans he
    exact (hin.before_or hf).imp_right fun h => .inl ⟨rfl, h⟩
  by_cases h1 : d = 1
  · subst h1
    obtain ⟨f, ht, hout⟩ := h.output
    cases ht.symm.trans he
    exact (hout.before_or hf).imp_right fun h => .inr ⟨rfl, h⟩
  · rw [h.others d h0 h1] at he
    exact .inl (o.known d e (Option.filter_eq_some_iff.mp he).1)

theorem not_before {n i : Nat} : ¬ (File.reader (n + i)).Before n ∧ ¬ (File.writer (n + i)).Before n :=
  ⟨fun h => Nat.not_lt.mpr (Nat.le_add_right n i) h, fun h => Nat.not_lt.mpr (Nat.le_add_right n i) h⟩

/-- Whatever the order of the steps of the shell and its children: a child becomes the program of its stage with its
streams wired, and nothing else that it holds is an end of a pipe of the launch; and when the launch returns, the
shell holds what it held before, and there is a child for each stage. So when all children have become their programs
or are gone, the end of a pipe into which a stage writes is held by this stage alone, as its standard output, and the
end from which the stage after reads by that one alone, as its standard input. -/
theorem launch_wired {grouped : Bool} (hf : ∀ stage ∈ stages, Foreign names o stage)
    (hs : System.Reaches names Succeeds (.start o.table o.pipes (spawn grouped stages)) s) :
    (∀ (i : Nat) (t : Table) (argv : List Bytes), s.processes[i + 1]? = some ⟨t, .executing argv⟩ →
      ∃ stage : Invocation, stages[i]? = some stage ∧ argv = stage.argv ∧ Wired names o stages.length i stage t ∧
      ∀ (d : Descriptor) (e : Entry), t d = some e → e.file.Before o.pipes ∨
        (d = 0 ∧ stage.input = none ∧ ∃ j : Nat, i = j + 1 ∧ e.file = .reader (o.pipes + j)) ∨
        (d = 1 ∧ stage.output = none ∧ i + 1 < stages.length ∧ e.file = .writer (o.pipes + i))) ∧
    ∀ (t : Table) (r : Except Failure (List Pid)), s.processes[0]? = some ⟨t, .running (.done r)⟩ →
      t = o.table ∧ s.processes.length = stages.length + 1 ∧
      (∃ pids : List Pid, r = .ok pids ∧ pids.length = stages.length) ∧
      ((∀ (i : Nat) (p : Process _), s.processes[i + 1]? = some p → ∀ q, p.activity ≠ .running q) →
        ∀ (q : Nat) (p : Process _) (d : Descriptor) (e : Entry), s.processes[q]? = some p → p.table d = some e →
          (∀ i : Nat, e.file = .writer (o.pipes + i) → q = i + 1 ∧ d = 1) ∧
          (∀ i : Nat, e.file = .reader (o.pipes + i) → q = i + 2 ∧ d = 0)) := by
  have hsound := sound_reaches hs
  have executing : ∀ (q : Nat) (t : Table) (argv : List Bytes), s.processes[q]? = some ⟨t, .executing argv⟩ →
      ∃ (i : Nat) (stage : Invocation), q = i + 1 ∧ stages[i]? = some stage ∧ argv = stage.argv ∧
        Wired names o stages.length i stage t ∧ Foreign names o stage := by
    intro q t argv hp
    obtain ⟨k, rfl, rfl, -, i, stage, hi, hstage, hargv, hw⟩ := hsound _ _ hp
    exact ⟨i, stage, hi, hstage, hargv, hw, hf stage (List.mem_of_getElem? hstage)⟩
  refine ⟨fun i t argv hp => ?_, fun t r hp => ?_⟩
  · obtain ⟨_, stage, hi, hstage, hargv, hw, hf⟩ := executing _ _ _ hp
    cases hi
    exact ⟨stage, hstage, hargv, hw, fun d e he => hw.before_or hf he⟩
  · obtain ⟨k, hk, rfl, hshell, hr, hc⟩ := hsound _ _ hp
    refine ⟨hc.table, (hshell rfl).2 ▸ hc.processes, hr, fun hall q p d e hq he => ?_⟩
    have before : e.file.Before o.pipes → (∀ i : Nat, e.file = .writer (o.pipes + i) → q = i + 1 ∧ d = 1) ∧
        ∀ i : Nat, e.file = .reader (o.pipes + i) → q = i + 2 ∧ d = 0 := fun hb =>
      ⟨fun i hi => (not_before.2 (hi ▸ hb)).elim, fun i hi => (not_before.1 (hi ▸ hb)).elim⟩
    -- The shell holds what it held before, a child that is gone nothing, and any other child is wired.
    cases q with
    | zero =>
      cases hp.symm.trans hq
      rw [hc.table] at he
      exact before (o.known d e he)
    | succ q =>
      obtain ⟨t, activity⟩ := p
      cases activity with
      | running p => exact (hall q _ hq p rfl).elim
      | gone =>
        obtain ⟨k', -, rfl, -, hnone⟩ := hsound _ _ hq
        rw [show k'.table = .none from hnone] at he
        cases he
      | executing argv =>
        obtain ⟨i, stage, hi, -, -, hw, hf⟩ := executing _ _ _ hq
        cases hi
        rcases hw.before_or hf he with hb | ⟨rfl, -, j, rfl, hj⟩ | ⟨rfl, -, -, hj⟩
        · exact before hb
        · refine ⟨fun i hi => ?_, fun i hi => ?_⟩
          · rw [hj] at hi
            cases hi
          · cases Nat.add_left_cancel (File.reader.inj (hj.symm.trans hi))
            exact ⟨rfl, rfl⟩
        · refine ⟨fun i hi => ?_, fun i hi => ?_⟩
          · cases Nat.add_left_cancel (File.writer.inj (hj.symm.trans hi))
            exact ⟨rfl, rfl⟩
          · rw [hj] at hi
            cases hi

end Steps

/-! ### Becoming a program -/

section Becoming
variable {α : Type} {names : Names} {s : System α} {q : Nat} {t : Table} {p : Prog α} {trace : List Prog.Event}
  {argv : List Bytes}

/-- A process comes to its program by calls that are nothing to its descriptors. -/
theorem reaches_executing {may : (c : Call) → c.Reply → Prop} {c : Call} (h : Prog.Arrives p trace c)
    (hp : s.processes[q]? = some ⟨t, .running p⟩) (hc : argv? c = some argv)
    (hquiet : ∀ e ∈ trace, may e.call e.reply ∧ ∀ h, Answer names e.call h e.reply h) :
    System.Reaches names may s (s.put q ⟨t.executed, .executing argv⟩) := by
  induction h generalizing s with
  | here => exact .single (.execute hp hc)
  | call _ ih =>
    obtain ⟨⟨hmay, hanswer⟩, hrest⟩ := List.forall_mem_cons.mp hquiet
    have hreaches := ih (System.getElem?_put hp _) hc hrest
    rw [System.put_put] at hreaches
    exact .head (.quiet hp hmay hanswer) hreaches
  | loop _ ih =>
    have hreaches := ih (System.getElem?_put hp _) hc hquiet
    rw [System.put_put] at hreaches
    exact .head (.unroll hp) hreaches

/-- The calls behind the streams of a child. -/
def resets : List Prog.Event :=
  Child.defaultSignals.map (⟨.defaultSignal ·, ()⟩) ++ [⟨.unblockSignals, ()⟩]

theorem quiet_of_mem_resets (e : Prog.Event) (he : e ∈ resets) :
    Succeeds e.call e.reply ∧ ∀ h, Answer names e.call h e.reply h := by
  rcases List.mem_append.mp he with he | he
  · obtain ⟨s, -, rfl⟩ := List.mem_map.mp he
    exact ⟨trivial, fun _ => rfl⟩
  · cases List.mem_singleton.mp he
    exact ⟨trivial, fun _ => rfl⟩

/-- A child whose streams are in place becomes its program. -/
theorem reaches_program (hp : s.processes[q]? = some ⟨t, .running p⟩) (h : Prog.Arrives p resets (.execute argv)) :
    System.Reaches names Succeeds s (s.put q ⟨t.executed, .executing argv⟩) :=
  reaches_executing h hp rfl quiet_of_mem_resets

end Becoming

/-! ### Two stages -/

/-- A program that writes to another, which writes to a file. -/
def twoStages : List Invocation := [⟨[[97]], none, none⟩, ⟨[[98]], none, some [102]⟩]

def terminal : Origin where
  table d := if d < 3 then some ⟨.other d, false⟩ else none
  pipes := 0
  known d e h := by
    split at h
    · cases h
      trivial
    · cases h
  standard d hd := ⟨.other d, if_pos hd⟩

def oneFile : Names := fun path _ f => path = [102] ∧ f = .other 3

/-- The first child becomes its program before the second is forked. -/
theorem reaches_twoStages : ∃ s, System.Reaches oneFile Succeeds
      (.start terminal.table terminal.pipes (spawn false twoStages)) s ∧ s.processes.length = 3 ∧
    (∃ t, s.processes[0]? = some ⟨t, .running (.done (.ok [71, 72]))⟩) ∧
    (∃ t, s.processes[1]? = some ⟨t, .executing [[97]]⟩) ∧ ∃ t, s.processes[2]? = some ⟨t, .executing [[98]]⟩ := by
  have h : System.Reaches oneFile Succeeds (.start terminal.table terminal.pipes (spawn false twoStages)) _ := .refl
  replace h := h.tail (@System.Step.pipe _ _ _ _ 0 _ _ 3 4 rfl trivial (by decide) rfl rfl)
  replace h := h.tail (.fork (q := 0) 71 rfl trivial)
  replace h := h.tail (.close (q := 1) rfl trivial rfl)
  replace h := h.tail (.duplicate (q := 1) rfl trivial (by decide) rfl)
  replace h := h.tail (.close (q := 1) rfl trivial rfl)
  replace h := h.trans (reaches_program (q := 1) rfl
    (.call (.call (.call (.call (.call (.call (.call (.call .here)))))))))
  replace h := h.tail (.close (q := 0) rfl trivial rfl)
  replace h := h.tail (.fork (q := 0) 72 rfl trivial)
  replace h := h.tail (.close (q := 0) rfl trivial rfl)
  replace h := h.tail (.duplicate (q := 2) rfl trivial (by decide) rfl)
  replace h := h.tail (.close (q := 2) rfl trivial rfl)
  replace h := h.tail (.openFile (q := 2) (d := 3) rfl trivial rfl ⟨rfl, rfl⟩)
  replace h := h.tail (.duplicate (q := 2) rfl trivial (by decide) rfl)
  replace h := h.tail (.close (q := 2) rfl trivial rfl)
  replace h := h.trans (reaches_program (q := 2) rfl
    (.call (.call (.call (.call (.call (.call (.call (.call .here)))))))))
  exact ⟨_, h, rfl, ⟨_, rfl⟩, ⟨_, rfl⟩, ⟨_, rfl⟩⟩

theorem launch_wired_twoStages : ∃ s t₁ t₂, System.Reaches oneFile Succeeds
      (.start terminal.table terminal.pipes (spawn false twoStages)) s ∧
    s.processes[0]? = some ⟨terminal.table, .running (.done (.ok [71, 72]))⟩ ∧
    s.processes[1]? = some ⟨t₁, .executing [[97]]⟩ ∧ Wired oneFile terminal 2 0 ⟨[[97]], none, none⟩ t₁ ∧
    s.processes[2]? = some ⟨t₂, .executing [[98]]⟩ ∧ Wired oneFile terminal 2 1 ⟨[[98]], none, some [102]⟩ t₂ ∧
    ∀ (q : Nat) (p : Process _) (d : Descriptor) (e : Entry), s.processes[q]? = some p → p.table d = some e →
      (∀ i : Nat, e.file = .writer i → q = i + 1 ∧ d = 1) ∧ (∀ i : Nat, e.file = .reader i → q = i + 2 ∧ d = 0) := by
  obtain ⟨s, h, hlength, ⟨t, hp⟩, ⟨t₁, hp₁⟩, ⟨t₂, hp₂⟩⟩ := reaches_twoStages
  have hf : ∀ stage ∈ twoStages, Foreign oneFile terminal stage := fun stage _ =>
    ⟨fun _ _ f hf => by rw [hf.2]; trivial, fun _ _ f hf => by rw [hf.2]; trivial⟩
  obtain ⟨hexecuting, hreturned⟩ := launch_wired hf h
  obtain ⟨_, hfirst, -, hw₁, -⟩ := hexecuting 0 t₁ [[97]] hp₁
  obtain ⟨_, hsecond, -, hw₂, -⟩ := hexecuting 1 t₂ [[98]] hp₂
  obtain ⟨rfl, -, -, hends⟩ := hreturned t (.ok [71, 72]) hp
  cases hfirst
  cases hsecond
  have hall : ∀ (i : Nat) (p : Process _), s.processes[i + 1]? = some p → ∀ q, p.activity ≠ .running q := by
    rintro (_ | _ | i) p hi q hq
    · cases hp₁.symm.trans hi
      cases hq
    · cases hp₂.symm.trans hi
      cases hq
    · rw [List.getElem?_eq_none (by omega)] at hi
      cases hi
  refine ⟨s, t₁, t₂, h, hp, hp₁, hw₁, hp₂, hw₂, fun q p d e hq he => ?_⟩
  have hzero : ∀ i : Nat, terminal.pipes + i = i := Nat.zero_add
  simpa only [hzero] using hends hall q p d e hq he

end JobShell.Launch
