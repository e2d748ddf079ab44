import JobShell.Proofs.Launch.Fate
import JobShell.Proofs.Line.Rules

/-! # Stages in their turn

A launch forks one child for each stage, in the order of the stages, and each of them goes on with the program of its
stage. No other child is forked, whatever the calls are replied to, and none is left out unless a call is refused. -/

namespace JobShell

namespace Prog

/-- The program forks a child for each invocation in its turn. `Q` is about the invocations whose turn has not come
where the program ends. A part that is repeated forks no child. -/
def ForksEach : {α : Type} → (List Invocation → α → Prop) → List Invocation → Prog α → Prop
  | _, Q, is, .done a => Q is a
  | _, Q, is, .call .fork next => (∃ i rest w, is = i :: rest ∧ next (.ok .child) = (Child.run i w).never ∧
      ∀ pid, ForksEach Q rest (next (.ok (.parent pid)))) ∧ ∀ e, ForksEach Q is (next (.error e))
  | _, Q, is, .call _ next => ∀ r, ForksEach Q is (next r)
  | _, Q, is, .loop body _ next => (∀ s, ForksEach (fun is' _ => is' = is) is (body s)) ∧
      ∀ b, ForksEach Q is (next b)

variable {α β σ : Type} {p : Prog α} {P Q : List Invocation → α → Prop} {is : List Invocation} {trace : List Event}

theorem forksEach_call {c : Call} {next : c.Reply → Prog α} (hc : c ≠ .fork) :
    ForksEach Q is (.call c next) ↔ ∀ r, ForksEach Q is (next r) := by
  cases c <;> first | exact absurd rfl hc | exact Iff.rfl

theorem ForksEach.mono (h : ForksEach P is p) (hPQ : ∀ is a, P is a → Q is a) : ForksEach Q is p := by
  induction p generalizing is with
  | done a => exact hPQ is a h
  | call c next ih =>
    by_cases hc : c = .fork
    · subst hc
      obtain ⟨⟨i, rest, w, his, hchild, hparent⟩, hrefused⟩ := h
      exact ⟨⟨i, rest, w, his, hchild, fun pid => ih _ (hparent pid) hPQ⟩, fun e => ih _ (hrefused e) hPQ⟩
    · exact (forksEach_call hc).mpr fun r => ih r ((forksEach_call hc).mp h r) hPQ
  | loop body s next _ ih => exact ⟨h.1, fun b => ih b (h.2 b) hPQ⟩

theorem never_bind (p : Prog Empty) (f : α → Prog β) : (never p : Prog α).bind f = never p := by
  rw [never, bind_assoc]
  exact congrArg p.bind (funext fun e => e.elim)

theorem ForksEach.bind {Q : List Invocation → β → Prop} {f : α → Prog β}
    (h : ForksEach (fun is a => ForksEach Q is (f a)) is p) : ForksEach Q is (p >>= f) := by
  induction p generalizing is with
  | done a => exact h
  | call c next ih =>
    by_cases hc : c = .fork
    · subst hc
      obtain ⟨⟨i, rest, w, his, hchild, hparent⟩, hrefused⟩ := h
      refine ⟨⟨i, rest, w, his, ?_, fun pid => ih _ (hparent pid)⟩, fun e => ih _ (hrefused e)⟩
      exact (congrArg (Prog.bind · f) hchild).trans (never_bind _ f)
    · exact (forksEach_call hc).mpr fun r => ih r ((forksEach_call hc).mp h r)
  | loop body s next _ ih => exact ⟨h.1, fun b => ih b (h.2 b)⟩

/-- A call that is no fork, and what comes behind it. -/
theorem forksEach_perform {c : Call} {Q : List Invocation → β → Prop} {f : c.Reply → Prog β} (hc : c ≠ .fork)
    (h : ∀ r, ForksEach Q is (f r)) : ForksEach Q is (perform c >>= f) :=
  (forksEach_call hc).mpr h

theorem ForksEach.unroll {body : σ → Prog (σ ⊕ β)} {s : σ} {next : β → Prog α}
    (h : ForksEach Q is (.loop body s next)) : ForksEach Q is (Prog.unroll body s next) := by
  refine ForksEach.bind ((h.1 s).mono ?_)
  rintro _ (s | b) rfl
  · exact h
  · exact h.2 b

/-! ### What a program has forked -/

/-- How many children the calls of a trace have made. -/
def forked : List Event → Nat
  | [] => 0
  | ⟨.fork, .ok (.parent _)⟩ :: trace => forked trace + 1
  | _ :: trace => forked trace

theorem forked_cons {c : Call} (hc : c ≠ .fork) (r : c.Reply) : forked (⟨c, r⟩ :: trace) = forked trace := by
  cases c <;> first | exact absurd rfl hc | rfl

/-- Where the program ends, it has forked a child for each invocation of which it is not said that it is left. -/
theorem ForksEach.runs {a : α} (h : ForksEach Q is p) (hr : Runs p trace a) :
    forked trace ≤ is.length ∧ Q (is.drop (forked trace)) a := by
  induction hr generalizing is with
  | done a => exact ⟨Nat.zero_le _, h⟩
  | @call c next r trace a hr ih =>
    by_cases hc : c = .fork
    · subst hc
      obtain ⟨⟨i, rest, w, rfl, hchild, hparent⟩, hrefused⟩ := h
      rcases r with e | _ | pid
      · exact ih (hrefused e)
      · rw [hchild] at hr
        exact absurd hr not_runs_never
      · exact (ih (hparent pid)).imp_left Nat.succ_le_succ
    · rw [forked_cons hc]
      exact ih ((forksEach_call hc).mp h r)
  | loop _ ih => exact ih h.unroll

/-- A child that is forked goes on with the program of the invocation whose turn it is. -/
theorem ForksEach.behind {q : Prog α} (h : ForksEach Q is p) (hb : Behind p (trace ++ [⟨.fork, .ok .child⟩]) q) :
    ∃ i w, is[forked trace]? = some i ∧ q = (Child.run i w).never := by
  generalize ht : trace ++ [⟨.fork, .ok .child⟩] = t at hb
  induction hb generalizing is trace with
  | here => exact absurd ht (by simp)
  | @call c next r t q hb ih =>
    cases trace with
    | nil =>
      cases ht
      obtain ⟨⟨i, rest, w, rfl, hchild, -⟩, -⟩ := h
      exact ⟨i, w, rfl, hb.eq.trans hchild⟩
    | cons e trace =>
      cases ht
      by_cases hc : c = .fork
      · subst hc
        obtain ⟨⟨i, rest, w, rfl, hchild, hparent⟩, hrefused⟩ := h
        rcases r with e | _ | pid
        · have hchild := ih (hrefused e) rfl
          exact hchild
        · -- A child forks nothing itself.
          rw [hchild] at hb
          exact absurd rfl (Child.Own.ne (Child.makes_never_run i w _ _ hb.arrives)).2.1
        · have hchild := ih (hparent pid) rfl
          exact hchild
      · rw [forked_cons hc]
        exact ih ((forksEach_call hc).mp h r) rfl
  | loop _ ih => exact ih h.unroll ht

end Prog

namespace Launch
open Prog (ForksEach forksEach_perform)

variable {is : List Invocation}

theorem forksEach_start (i : Invocation) (w : Wiring) (rest : List Invocation) :
    ForksEach (fun is r => match r with
      | .ok _ => is = rest
      | .error _ => is = i :: rest) (i :: rest) (start i w) := by
  obtain ⟨input, output, spare, group⟩ := w
  refine ⟨⟨i, rest, ⟨input, output, spare, group⟩, rfl, rfl, fun pid => ?_⟩, fun e => rfl⟩
  cases group with
  | none => rfl
  | some group => exact fun _ => rfl

theorem forksEach_dropHeld (held : Option Descriptor) : ForksEach (fun is' _ => is' = is) is (dropHeld held) := by
  cases held with
  | none => rfl
  | some d => exact fun _ => rfl

/-- Why not all stages have been forked. -/
def Refused (f : Failure) : Prop := ∃ e, f = .pipe e ∨ f = .fork e

theorem forksEach_spawnStages (group : Option Pid) (held : Option Descriptor) (stages : List Invocation) :
    ForksEach (fun is r => match r.2 with
      | none => is = []
      | some f => Refused f) stages (spawnStages group held stages) := by
  induction stages generalizing group held with
  | nil => rfl
  | cons stage rest ih =>
    have drops : ∀ (d : Option Descriptor) {α : Type} {p : Prog α} {Q : List Invocation → α → Prop}
        {is : List Invocation}, ForksEach Q is p → ForksEach Q is (dropHeld d >>= fun _ => p) := by
      intro d α p Q is hp
      refine ForksEach.bind ((forksEach_dropHeld d).mono ?_)
      rintro _ _ rfl
      exact hp
    cases rest with
    | nil =>
      refine ForksEach.bind ((forksEach_start stage _ []).mono ?_)
      rintro is (e | pid) his
      · exact drops held ⟨e, .inr rfl⟩
      · exact drops held his
    | cons next rest =>
      refine forksEach_perform (c := .pipe) nofun ?_
      rintro (e | ⟨reader, writer⟩)
      · exact drops held ⟨e, .inl rfl⟩
      · refine ForksEach.bind ((forksEach_start stage _ (next :: rest)).mono ?_)
        rintro is (e | pid) his
        · exact drops (some reader) (drops (some writer) (drops held ⟨e, .inr rfl⟩))
        · subst his
          exact drops held (drops (some writer) (ForksEach.bind (ih _ _)))

theorem forksEach_waitFor (pid : Pid) : ForksEach (fun is' _ => is' = is) is (waitFor pid) := by
  rw [waitFor_eq]
  exact ⟨fun _ _ => rfl, fun _ => rfl⟩

theorem forksEach_waitAll (pids : List Pid) : ForksEach (fun is' _ => is' = is) is (waitAll pids) := by
  induction pids with
  | nil => rfl
  | cons pid pids ih =>
    refine ForksEach.bind ((forksEach_waitFor pid).mono ?_)
    rintro _ (f | status) rfl
    · rfl
    · refine ForksEach.bind (ih.mono ?_)
      rintro _ (f | statuses) rfl <;> rfl

theorem forksEach_abandon (pids : List Pid) : ForksEach (fun is' _ => is' = is) is (abandon pids) := by
  induction pids with
  | nil => rfl
  | cons pid pids ih =>
    refine forksEach_perform (c := .kill _ _) nofun fun _ => ForksEach.bind ((forksEach_waitFor pid).mono ?_)
    rintro _ _ rfl
    exact ih

/-- Nothing is left to be forked, unless a call was refused. -/
def Forked {α : Type} (is : List Invocation) (r : Except Failure α) : Prop := is = [] ∨ ∃ f, r = .error f ∧ Refused f

theorem Forked.error {α β : Type} {f : Failure} (h : Forked is (.error f : Except Failure α)) :
    Forked is (.error f : Except Failure β) := by
  obtain his | ⟨f', hf, hrefused⟩ := h
  · exact .inl his
  · exact .inr ⟨f, rfl, Except.error.inj hf ▸ hrefused⟩

theorem Forked.ok {α β : Type} {a : α} {r : Except Failure β} (h : Forked is (.ok a : Except Failure α)) :
    Forked is r := by
  obtain his | ⟨f, hf, -⟩ := h
  · exact .inl his
  · cases hf

theorem forksEach_spawn (grouped : Bool) (stages : List Invocation) :
    ForksEach Forked stages (spawn grouped stages) := by
  refine ForksEach.bind ((forksEach_spawnStages _ _ _).mono ?_)
  rintro is ⟨pids, _ | f⟩ h
  · exact .inl h
  · exact ForksEach.bind ((forksEach_abandon pids).mono fun _ _ _ => .inr ⟨f, rfl, h⟩)

theorem forksEach_background (text : Text) (stages : List Invocation) :
    ForksEach Forked stages (background text stages) := by
  refine forksEach_perform (c := .acquireJobs) nofun fun table => ForksEach.bind ((forksEach_spawn _ _).mono ?_)
  rintro is (f | _ | ⟨first, rest⟩) h
  · exact fun _ => h.error
  · exact fun _ => h.ok
  · exact fun _ => h.ok

theorem forksEach_foreground (stages : List Invocation) : ForksEach Forked stages (foreground stages) := by
  refine ForksEach.bind ((forksEach_spawn _ _).mono ?_)
  rintro is (f | pids) h
  · exact h.error
  · refine ForksEach.bind ((forksEach_waitAll pids).mono ?_)
    rintro _ (f | statuses) rfl <;> exact h.ok

theorem forksEach_launch {p : Pipeline} {stages : List Invocation}
    (h : p.stages.mapM Invocation.ofStage = .ok stages) : ForksEach Forked stages (launch p) := by
  unfold launch
  split
  · rename_i hempty
    rw [List.isEmpty_iff.mp hempty] at h
    cases h
    exact .inl rfl
  · rw [h]
    dsimp only
    split
    · exact forksEach_background p.text stages
    · exact forksEach_foreground stages

end Launch

end JobShell
