import JobShell.Proofs.Launch.Turns
import JobShell.Proofs.Launch.Wiring

/-! # Children apart

Whatever becomes of its children, the shell does not notice it while it launches: what the shell comes to, and what each
child is forked with, it could have come to if no child had taken a step. And each child goes its own way, as if it were
alone. -/

namespace JobShell

namespace Prog

/-- Wherever the program forks, the child goes on with the program of a stage, and with nothing else. -/
def ForksStages : {α : Type} → Prog α → Prop
  | _, .done _ => True
  | _, .call .fork next => (∃ i w, next (.ok .child) = (Child.run i w).never) ∧
      (∀ pid, ForksStages (next (.ok (.parent pid)))) ∧ ∀ e, ForksStages (next (.error e))
  | _, .call _ next => ∀ r, ForksStages (next r)
  | _, .loop body _ next => (∀ s, ForksStages (body s)) ∧ ∀ b, ForksStages (next b)

variable {α β σ : Type}

theorem forksStages_call {c : Call} {next : c.Reply → Prog α} (hc : c ≠ .fork) :
    ForksStages (.call c next) ↔ ∀ r, ForksStages (next r) := by
  cases c <;> first | exact absurd rfl hc | exact Iff.rfl

theorem ForksStages.bind {p : Prog α} {f : α → Prog β} (hp : ForksStages p) (hf : ∀ a, ForksStages (f a)) :
    ForksStages (p >>= f) := by
  induction p with
  | done a => exact hf a
  | call c next ih =>
    by_cases hc : c = .fork
    · subst hc
      obtain ⟨⟨i, w, hchild⟩, hparent, hrefused⟩ := hp
      refine ⟨⟨i, w, ?_⟩, fun pid => ih _ (hparent pid) hf, fun e => ih _ (hrefused e) hf⟩
      exact (congrArg (Prog.bind · f) hchild).trans (never_bind _ f)
    · exact (forksStages_call hc).mpr fun r => ih r ((forksStages_call hc).mp hp r) hf
  | loop body s next _ ih => exact ⟨hp.1, fun b => ih b (hp.2 b) hf⟩

theorem ForksStages.unroll {body : σ → Prog (σ ⊕ β)} {s : σ} {next : β → Prog α} (h : ForksStages (.loop body s next)) :
    ForksStages (Prog.unroll body s next) := by
  refine (h.1 s).bind ?_
  rintro (s | b)
  · exact h
  · exact h.2 b

/-- Whose turn it is does not matter here. -/
theorem ForksEach.forksStages {p : Prog α} {Q : List Invocation → α → Prop} {is : List Invocation}
    (h : ForksEach Q is p) : ForksStages p := by
  induction p generalizing is with
  | done a => trivial
  | call c next ih =>
    by_cases hc : c = .fork
    · subst hc
      obtain ⟨⟨i, rest, w, -, hchild, hparent⟩, hrefused⟩ := h
      exact ⟨⟨i, w, hchild⟩, fun pid => ih _ (hparent pid), fun e => ih _ (hrefused e)⟩
    · exact (forksStages_call hc).mpr fun r => ih r ((forksEach_call hc).mp h r)
  | loop body s next ihb ih => exact ⟨fun s => ihb s (h.1 s), fun b => ih b (h.2 b)⟩

end Prog

namespace Launch
open Descriptors
open Prog (ForksStages Makes)

theorem forksStages_launch (p : Pipeline) : ForksStages (launch p) := by
  cases h : p.stages.mapM Invocation.ofStage with
  | ok stages => exact (forksEach_launch h).forksStages
  | error f =>
    unfold launch
    rw [h]
    split <;> trivial

/-! ### Each process on its own -/

variable {α : Type} {names : Names} {p p' : Process α}

/-- A step of a process that makes no pipe and no process. It does not look at what else there is. -/
inductive Alone (names : Names) : Process α → Process α → Prop
  | call {table table' : Table} {c : Call} {next : c.Reply → Prog α} {r : c.Reply}
      (ha : ∀ n, Answer names c ⟨table, n⟩ r ⟨table', n⟩) :
      Alone names ⟨table, .running (.call c next)⟩ ⟨table', .running (next r)⟩
  | execute {table : Table} {c : Call} {next : c.Reply → Prog α} {argv : List Bytes} (hc : argv? c = some argv) :
      Alone names ⟨table, .running (.call c next)⟩ ⟨table.executed, .executing argv⟩
  | exit {table : Table} {code : Int} {next : Empty → Prog α} :
      Alone names ⟨table, .running (.call (.exit code) next)⟩ ⟨.none, .gone⟩
  | unroll {table : Table} {σ β : Type} {body : σ → Prog (σ ⊕ β)} {t : σ} {next : β → Prog α} :
      Alone names ⟨table, .running (.loop body t next)⟩ ⟨table, .running (Prog.unroll body t next)⟩
  | kill {p : Process α} : Alone names p ⟨.none, .gone⟩

/-- A child that has not taken a step since it was forked. -/
def Newborn (p : Process α) : Prop := ∃ i w, p.activity = .running (Child.run i w).never

/-- What has become of a child that was forked as `p`. -/
def Becomes (names : Names) (p p' : Process α) : Prop := Newborn p ∧ Relation.ReflTransGen (Alone names) p p'

/-- The process makes no calls but those of a child. -/
def MakesOwn (p : Process α) : Prop := ∀ q, p.activity = .running q → Makes Child.Own q

theorem Newborn.makesOwn (h : Newborn p) : MakesOwn p := by
  obtain ⟨i, w, h⟩ := h
  intro q hq
  cases h.symm.trans hq
  exact Child.makes_never_run i w

theorem MakesOwn.step (h : MakesOwn p) (ha : Alone names p p') : MakesOwn p' := by
  intro q hq
  cases ha with
  | call => cases hq; exact (h _ rfl).next _
  | unroll => cases hq; exact (h _ rfl).unroll
  | _ => cases hq

theorem Becomes.makesOwn (h : Becomes names p p') : MakesOwn p' := by
  obtain ⟨hborn, hsteps⟩ := h
  induction hsteps with
  | refl => exact hborn.makesOwn
  | tail _ ha ih => exact ih.step ha

/-! ### All processes together -/

/-- Every reply that the kernel may give. -/
def any (c : Call) (_ : c.Reply) : Prop := True

/-- A step in which the children that there are have no part. -/
def ShellStep (names : Names) (s s' : System α) : Prop :=
  System.Step names any s s' ∧ s.processes.tail <+: s'.processes.tail

/-- The shell has come to where it could have come without its children, and each child has gone its own way. -/
def Parted (names : Names) (s₀ s : System α) : Prop :=
  ∃ shell children newborns pipes, s = ⟨shell :: children, pipes⟩ ∧
    Relation.ReflTransGen (ShellStep names) s₀ ⟨shell :: newborns, pipes⟩ ∧
    List.Forall₂ (Becomes names) newborns children

/-- The shell forks stages and nothing else. -/
def Forks (p : Process α) : Prop := ∀ q, p.activity = .running q → ForksStages q

theorem forall₂_set {β : Type 1} {R : β → β → Prop} {l l' : List β} {j : Nat} {b c : β} (h : List.Forall₂ R l l')
    (hb : l'[j]? = some b) (hc : ∀ a, R a b → R a c) : List.Forall₂ R l (l'.set j c) := by
  induction h generalizing j with
  | nil => cases hb
  | cons hab hrest ih =>
    cases j with
    | zero =>
      cases hb
      exact .cons (hc _ hab) hrest
    | succ j => exact .cons hab (ih hb)

variable {s₀ s s' : System α}

/-- What one process does by itself, it does beside others. -/
theorem Alone.step (h : Alone names p p') (before after : List (Process α)) (n : Nat) :
    System.Step names any ⟨before ++ p :: after, n⟩ ⟨before ++ p' :: after, n⟩ := by
  have hp : ∀ p : Process α, (⟨before ++ p :: after, n⟩ : System α).processes[before.length]? = some p := fun p => by
    simp
  have hput : ∀ p', (⟨before ++ p' :: after, n⟩ : System α) =
      (⟨before ++ p :: after, n⟩ : System α).put before.length p' := fun p' => by
    simp [System.put, List.set_append_right]
  rw [hput p']
  cases h with
  | call ha => exact .call (h := ⟨_, n⟩) (hp _) trivial (ha n)
  | execute hc => exact .execute (hp _) hc
  | exit => exact .exit (hp _)
  | unroll => exact .unroll (hp _)
  | kill => exact .kill (hp _)

/-- Children that go their own ways one after the other. -/
theorem reaches_becomes {newborns children : List (Process α)} (h : List.Forall₂ (Becomes names) newborns children)
    (before : List (Process α)) (n : Nat) :
    System.Reaches names any ⟨before ++ newborns, n⟩ ⟨before ++ children, n⟩ := by
  induction h generalizing before with
  | nil => exact .refl
  | @cons p p' newborns children hp _ ih =>
    have hfirst : System.Reaches names any ⟨before ++ p :: newborns, n⟩ ⟨before ++ p' :: newborns, n⟩ :=
      hp.2.lift (fun p => (⟨before ++ p :: newborns, n⟩ : System α)) fun _ _ ha => ha.step before newborns n
    have hrest := ih (before ++ [p'])
    rw [List.append_assoc, List.append_assoc] at hrest
    exact hfirst.trans hrest

theorem Parted.reaches (h : Parted names s₀ s) : System.Reaches names any s₀ s := by
  obtain ⟨shell, children, newborns, pipes, rfl, hshell, hchildren⟩ := h
  exact (hshell.lift id fun _ _ hs => hs.1).trans (reaches_becomes hchildren [shell] pipes)

theorem exists_of_forall₂ {β : Type 1} {R : β → β → Prop} {l l' : List β} {b : β} (h : List.Forall₂ R l l')
    (hb : b ∈ l') : ∃ a, R a b := by
  induction h with
  | nil => cases hb
  | cons hab _ ih =>
    rcases List.mem_cons.mp hb with rfl | hb
    · exact ⟨_, hab⟩
    · exact ih hb

/-- The same, with a shell that goes on to fork stages only. -/
def Steady (names : Names) (s₀ s : System α) : Prop :=
  Parted names s₀ s ∧ ∀ shell ∈ s.processes.head?, Forks shell

theorem Forks.next {table table' : Table} {c : Call} {next : c.Reply → Prog α} {r : c.Reply} {h h' : Holding}
    (hf : Forks ⟨table, .running (.call c next)⟩) (ha : Answer names c h r h') :
    Forks ⟨table', .running (next r)⟩ := by
  have hf := hf _ rfl
  intro q hq
  cases hq
  by_cases hc : c = .fork
  · subst hc
    cases r with
    | error e => exact hf.2.2 e
    | ok forked => exact ha.elim
  · exact (Prog.forksStages_call hc).mp hf r

theorem forks_gone (table : Table) : Forks (⟨table, .gone⟩ : Process α) := nofun

theorem steady_step (h : Steady names s₀ s) (hs : System.Step names any s s') : Steady names s₀ s' := by
  obtain ⟨⟨shell, children, newborns, pipes, rfl, hshell, hchildren⟩, hforks⟩ := h
  have hforks : Forks shell := hforks shell rfl
  have hown : ∀ {j : Nat} {p : Process α}, children[j]? = some p → MakesOwn p := fun hp =>
    have ⟨_, hbecomes⟩ := exists_of_forall₂ hchildren (List.mem_of_getElem? hp)
    hbecomes.makesOwn
  -- A child takes the step by itself.
  have child : ∀ {j : Nat} {p p' : Process α}, children[j]? = some p → Alone names p p' →
      Steady names s₀ ⟨shell :: children.set j p', pipes⟩ := fun hp ha =>
    ⟨⟨shell, _, newborns, pipes, rfl, hshell, forall₂_set hchildren hp fun _ hq => ⟨hq.1, hq.2.tail ha⟩⟩,
      fun _ h => Option.some.inj h ▸ hforks⟩
  -- The shell takes the step beside children that have not taken any.
  have own : ∀ {shell' : Process α} {pipes' : Nat}, Forks shell' →
      System.Step names any ⟨shell :: newborns, pipes⟩ ⟨shell' :: newborns, pipes'⟩ →
      Steady names s₀ ⟨shell' :: children, pipes'⟩ := fun hf hstep =>
    ⟨⟨_, children, newborns, _, rfl, hshell.tail ⟨hstep, List.prefix_refl _⟩, hchildren⟩,
      fun _ h => Option.some.inj h ▸ hf⟩
  cases hs with
  | @call q table c next r h hp hm ha =>
    cases q with
    | zero =>
      cases hp
      exact own (hforks.next ha) (.call (s := ⟨_, pipes⟩) (q := 0) rfl trivial ha)
    | succ j =>
      obtain ⟨hpipe, -, hservice⟩ := Child.Own.ne (hown hp _ rfl _ _ .here)
      obtain ⟨hpipes, hanswer⟩ := answer_pipes hpipe hservice ha
      obtain ⟨table', pipes'⟩ := h
      obtain rfl : pipes' = pipes := hpipes
      exact child hp (.call hanswer)
  | @fork q table next pid hp hm =>
    cases q with
    | zero =>
      cases hp
      obtain ⟨⟨i, w, hnewborn⟩, hparent, -⟩ := hforks _ rfl
      have hnew : Becomes names ⟨table, .running (next (.ok .child))⟩ ⟨table, .running (next (.ok .child))⟩ :=
        ⟨⟨i, w, congrArg Activity.running hnewborn⟩, .refl⟩
      refine ⟨⟨_, _, newborns ++ [⟨table, .running (next (.ok .child))⟩], pipes, rfl,
        hshell.tail ⟨.fork (s := ⟨_, pipes⟩) (q := 0) pid rfl trivial, List.prefix_append _ _⟩,
        List.rel_append hchildren (.cons hnew .nil)⟩, fun _ h q hq => ?_⟩
      cases Option.some.inj h
      cases hq
      exact hparent pid
    | succ j => exact absurd rfl (Child.Own.ne (hown hp _ rfl _ _ .here)).2.1
  | @execute q table c next argv hp hc =>
    cases q with
    | zero =>
      cases hp
      exact own nofun (.execute (s := ⟨_, pipes⟩) (q := 0) rfl hc)
    | succ j => exact child hp (.execute hc)
  | @exit q table code next hp =>
    cases q with
    | zero =>
      cases hp
      exact own (forks_gone _) (.exit (s := ⟨_, pipes⟩) (q := 0) rfl)
    | succ j => exact child hp .exit
  | @unroll q table σ β body t next hp =>
    cases q with
    | zero =>
      cases hp
      refine own (fun q hq => ?_) (.unroll (s := ⟨_, pipes⟩) (q := 0) rfl)
      cases hq
      exact ForksStages.unroll (hforks _ rfl)
    | succ j => exact child hp .unroll
  | @kill q p hp =>
    cases q with
    | zero => exact own (forks_gone _) (.kill (s := ⟨_, pipes⟩) (q := 0) rfl)
    | succ j => exact child hp .kill

/-- What the processes of a program come to together, if it forks stages and nothing else. -/
theorem reaches_iff_parted {table : Table} {pipes : Nat} {q : Prog α} (hq : ForksStages q) :
    System.Reaches names any (.start table pipes q) s ↔ Parted names (.start table pipes q) s := by
  refine ⟨fun h => ?_, Parted.reaches⟩
  suffices hsteady : Steady names (.start table pipes q) s from hsteady.1
  induction h with
  | refl =>
    refine ⟨⟨_, [], [], pipes, rfl, .refl, .nil⟩, fun _ h q' hq' => ?_⟩
    cases Option.some.inj h
    cases hq'
    exact hq
  | tail _ hs ih => exact steady_step ih hs

/-! ### What becomes of a child is its own affair -/

/-- Whatever its calls are replied to, a child comes to an end, and not by going on with the work of the shell. It exits
with 1 if and only if a stream cannot be put in its place: then it begins nothing that comes later. It exits with 127 if
and only if all streams are in their places and the program cannot be run. Otherwise it becomes the program. A child
that exits has written one message in five pieces, which says what has failed and why. And whatever becomes of the
children of a launch, what the shell has come to, its descriptors and the job table in its hands, and what each child is
forked with, could have been the same if no child had taken a step; nor does a child depend on what becomes of the
others. -/
theorem child_ends_apart (i : Invocation) (w : Wiring) (names : Names) (table : Table) (pipes : Nat) (p : Pipeline) :
    (∀ (σ : Type) (W : Surroundings σ), Prog.Halts W (Child.run i w)) ∧
    (∀ trace r, ¬ Prog.Runs (start i w) (⟨.fork, .ok .child⟩ :: trace) r) ∧
    (∀ trace c, Child.Last c → (Prog.Arrives (Child.run i w) trace c ↔ Child.Fate i w trace c)) ∧
    (∀ trace code, Prog.Arrives (Child.run i w) trace (.exit code) →
      ∃ before said what reason, trace = before ++ said ∧
        said.map Prog.Event.call = [.write 2 (Text.encode "pish: ".toList), .write 2 what,
          .write 2 (Text.encode ": ".toList), .write 2 (Text.encode reason), .write 2 (Text.encode "\n".toList)] ∧
        ∀ e ∈ before, ∀ d bytes, e.call ≠ .write d bytes) ∧
    ∀ s, System.Reaches names any (.start table pipes (launch p)) s ↔
      Parted names (.start table pipes (launch p)) s := by
  refine ⟨fun _ _ => Child.halts_run i w, ?_, fun _ _ hc => Child.arrives_run_iff hc, fun trace code h => ?_, fun s =>
    reaches_iff_parted (forksStages_launch p)⟩
  · rintro trace r (_ | h | _)
    exact Prog.not_runs_never h
  · exact ((Child.arrives_run_iff (c := .exit code) trivial).mp h).message

/-- What a process has written to its standard error. -/
def complained (trace : List Prog.Event) : Bytes := trace.flatMap fun e => match e.call with
  | .write 2 bytes => bytes
  | _ => []

/-- A program that there is not. -/
def unknown : Invocation := ⟨[Text.encode "nope".toList], none, none⟩

/-- A program that is to read from a file that there is not, and to write to another. -/
def unread : Invocation :=
  ⟨[Text.encode "cat".toList], some (Text.encode "none".toList), some (Text.encode "out".toList)⟩

/-- The writes of a message, none of which is refused. -/
def written (parts : List Text) : List Prog.Event :=
  parts.map fun part => ⟨.write 2 (Text.encode part), .ok (Text.encode part).length⟩

/-- The first child says that its program was not found. The second has its pipe end in place, says that its file was
not there, and does not open the other file. -/
theorem child_ends_apart_messages :
    (∃ trace, Prog.Arrives (Child.run unknown ⟨none, none, none, none⟩) trace (.exit 127) ∧
      complained trace = Text.encode "pish: nope: command not found\n".toList) ∧
    ∃ trace, Prog.Arrives (Child.run unread ⟨some 5, none, none, none⟩) trace (.exit 1) ∧
      complained trace = Text.encode "pish: none: No such file or directory\n".toList ∧
      ∀ e ∈ trace, e.call ≠ .openFile (Text.encode "out".toList) (.replacing Child.createdMode) := by
  have ends := fun (i : Invocation) (w : Wiring) =>
    (child_ends_apart i w (fun _ _ _ => False) (fun _ => none) 0 ⟨[], false⟩).2.2.1
  have hunknown : Child.Fate unknown ⟨none, none, none, none⟩ ([] ++ ([] ++ (resets ++
      ⟨.execute unknown.argv, Errno.noEntry⟩ ::
        written ["pish: ".toList, "nope".toList, ": ".toList, "command not found".toList, "\n".toList])))
      (.exit 127) := .notRun rfl .nil rfl rfl
  have hinput : Child.Tried ⟨unread.name, .held 5, 0⟩
      [⟨.duplicate 5 0, .ok ()⟩, ⟨.close 5, .ok ()⟩] (.ok ()) := .held (.duplicated (by decide) (.ok ()))
  have hfile : Child.Tried ⟨Text.encode "none".toList, .file (Text.encode "none".toList) .reading, 0⟩
      [⟨.openFile (Text.encode "none".toList) .reading, .error .noEntry⟩] (.error .noEntry) := .unopened _
  have hunread : Child.Fate unread ⟨some 5, none, none, none⟩ ([] ++ (_ ++
      written ["pish: ".toList, "none".toList, ": ".toList, "No such file or directory".toList, "\n".toList]))
      (.exit 1) := .misplaced rfl (.later hinput (.here hfile)) rfl
  have hlast : ∀ code, Child.Last (.exit code) := fun _ => trivial
  exact ⟨⟨_, (ends _ _ _ _ (hlast 127)).mpr hunknown, by decide⟩, _, (ends _ _ _ _ (hlast 1)).mpr hunread, by decide,
    by decide⟩

end Launch

end JobShell
