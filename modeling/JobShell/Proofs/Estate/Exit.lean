import JobShell.Proofs.Estate.Tables
import JobShell.Proofs.Launch.Unwaited
import JobShell.Proofs.Pipeline.Routing
import JobShell.Proofs.Text.Decimal

/-! # Lines that exit

A line exits if it is a lone stage named `exit` whose arguments ask for a code, and no other line does, whatever its
calls are replied to. Such a line makes no call at all. Its mark and its redirections are of no account. -/

namespace JobShell

variable {shell : Shell} {limits : Limits} {line : Text} {p : Pipeline} {stage : Stage} {args : List Text} {code : Int}

namespace Builtin

/-- No argument asks for 0, and one for the number of 32 bits that it is read as. -/
inductive AsksCode : List Text → Int → Prop
  | zero : AsksCode [] 0
  | number {t : Text} {code : Int} (h : Text.Signed t code) (hlow : -2 ^ 31 ≤ code) (hhigh : code < 2 ^ 31) :
      AsksCode [t] code

theorem exitCode_eq_ok_iff : exitCode args = .ok code ↔ AsksCode args code := by
  constructor
  · intro h
    unfold exitCode at h
    split at h
    · cases h
      exact .zero
    · split at h
      · rename_i hread
        cases h
        obtain ⟨h, hlow, hhigh⟩ := Text.readSigned_eq_ok_iff.mp hread
        exact .number h hlow hhigh
      · cases h
    · cases h
  · rintro (_ | ⟨h, hlow, hhigh⟩)
    · rfl
    · rw [exitCode, Text.readSigned_eq_ok_iff.mpr ⟨h, hlow, hhigh⟩]

theorem ofName?_eq_some_iff {t : Text} {b : Builtin} : ofName? t = some b ↔ t = b.name := by
  constructor
  · intro h
    rw [ofName?] at h
    have hname := List.find?_some h
    exact (beq_iff_eq.mp hname).symm
  · rintro rfl
    cases b <;> rfl

theorem ensures_run_proceeds {b : Builtin} (hb : b ≠ exit) (args : List Text) (k : Bool) :
    (b.run args).run.Ensures watching (fun r _ => ∀ code, r ≠ .ok (.exit code)) k := by
  have proceeds : ∀ x : Action Unit, (x >>= fun _ => pure Flow.proceed : Action Flow).run.Ensures watching
      (fun r _ => ∀ code, r ≠ .ok (.exit code)) k := by
    intro x
    refine ensures_proceed_of ((ensures_watching_true x.run k).mono ?_)
    rintro (f | _) _ -
    · exact fun _ he => by cases he
    · exact fun _ he => by cases he
  cases b with
  | exit => exact absurd rfl hb
  | cd => exact proceeds _
  | jobs => exact proceeds _
  | fg => exact proceeds _
  | bg => exact proceeds _

end Builtin

namespace Shell
open Builtin (AsksCode)

/-- The line is read as one stage, which is named `exit` and asks for a code. -/
def AsksExit (limits : Limits) (line : Text) (code : Int) : Prop :=
  ∃ p stage, Pipeline.parse limits line = .ok p ∧ p.stages = [stage] ∧ stage.name = "exit".toList ∧
    AsksCode stage.args.tail code

theorem command_eq_exit_iff : p.command = .builtin .exit args ↔
    ∃ stage, p.stages = [stage] ∧ stage.name = "exit".toList ∧ args = stage.args.tail := by
  constructor
  · intro hc
    have hlone : ∃ stage, p.stages = [stage] := by
      unfold Pipeline.command at hc
      split at hc
      · exact ⟨_, ‹_›⟩
      · cases hc
    obtain ⟨stage, hstage⟩ := hlone
    obtain ⟨hname, hargs⟩ := (Pipeline.command_of_lone_stage hstage _ _).mp hc
    exact ⟨stage, hstage, Builtin.ofName?_eq_some_iff.mp hname, hargs⟩
  · rintro ⟨stage, hstage, hname, hargs⟩
    exact (Pipeline.command_of_lone_stage hstage _ _).mpr ⟨Builtin.ofName?_eq_some_iff.mpr hname, hargs⟩

theorem asksExit_iff (hp : Pipeline.parse limits line = .ok p) :
    AsksExit limits line code ↔ ∃ args, p.command = .builtin .exit args ∧ AsksCode args code := by
  constructor
  · rintro ⟨p', stage, hp', hstage, hname, hcode⟩
    obtain rfl : p' = p := Except.ok.inj (hp'.symm.trans hp)
    exact ⟨_, command_eq_exit_iff.mpr ⟨stage, hstage, hname, rfl⟩, hcode⟩
  · rintro ⟨args, hc, hcode⟩
    obtain ⟨stage, hstage, hname, rfl⟩ := command_eq_exit_iff.mp hc
    exact ⟨p, stage, hp, hstage, hname, hcode⟩

/-- What a line comes to, if it is about its arguments alone. -/
def answered (shell : Shell) (r : Except Failure Int) : Except Failure Flow × Shell :=
  (r.map .exit, { shell with status := match r with
    | .ok _ => 0
    | .error _ => 1 })

/-- A lone stage named `exit` is about its arguments alone, and makes no call. -/
theorem eval_of_exit (hp : Pipeline.parse shell.limits line = .ok p) (hstage : p.stages = [stage])
    (hname : stage.name = "exit".toList) :
    shell.eval line = pure (shell.answered (Builtin.exitCode stage.args.tail)) := by
  have hc : p.command = .builtin .exit stage.args.tail := command_eq_exit_iff.mpr ⟨stage, hstage, hname, rfl⟩
  have hne : p.stages.isEmpty = false := by rw [hstage]; rfl
  have hrun : (Builtin.exit.run stage.args.tail).run = pure ((Builtin.exitCode stage.args.tail).map .exit) := rfl
  simp only [eval, obey, hp, hne, hc, Bool.false_eq_true, if_false, ExceptT.run_bind, hrun]
  cases Builtin.exitCode stage.args.tail <;> rfl

/-- A line exits with a code exactly if it asks for it. -/
theorem ensures_eval_exit (shell : Shell) (line : Text) (k : Bool) : (shell.eval line).Ensures watching
    (fun r _ => ∀ code, r.1 = .ok (.exit code) ↔ AsksExit shell.limits line code) k := by
  refine ensures_eval_of (ensures_obey_of (fun f hp code => iff_of_false nofun ?_)
    (fun p hp hempty code => iff_of_false nofun ?_) (fun p b args hp hc => ?_) fun p hp hc _ => ?_)
  · rintro ⟨p, -, hp', -⟩
    rw [hp] at hp'
    cases hp'
  · rw [asksExit_iff hp, Pipeline.command, hempty]
    rintro ⟨args, hc, -⟩
    cases hc
  · -- Among the builtins `exit` alone can answer with a code, and it answers with the one that its arguments ask for.
    by_cases hb : b = .exit
    · subst hb
      intro code
      have hasks : AsksExit shell.limits line code ↔ Builtin.exitCode args = .ok code := by
        rw [asksExit_iff hp, Builtin.exitCode_eq_ok_iff, hc]
        constructor
        · rintro ⟨args', he, hcode⟩
          rwa [(Command.builtin.inj he).2]
        · exact fun hcode => ⟨args, rfl, hcode⟩
      rw [hasks]
      show ((((Builtin.exitCode args).map Flow.exit).map (·, none)).map (·.1)) = _ ↔ _
      cases Builtin.exitCode args <;> simp [Except.map]
    · refine (Builtin.ensures_run_proceeds hb args k).mono fun r _ hr code => iff_of_false (fun he => ?_) ?_
      · rcases r with f | flow
        · cases he
        · exact hr code he
      · rw [asksExit_iff hp, hc]
        rintro ⟨args', he, -⟩
        exact hb (Command.builtin.inj he).1
  · refine (ensures_watching_true (launchLine p).run k).mono fun r _ _ code => iff_of_false (fun he => ?_) ?_
    · rcases r with f | status
      · cases he
      · cases he
    · rw [asksExit_iff hp, hc]
      rintro ⟨args, he, -⟩
      cases he

open Estate (State Noted noted)

/-- Whatever its calls are replied to, a line exits with a code exactly if it asks for it, and if its children end, it
comes to its own end in any case. A lone `exit` makes no call, neither with a code nor without. -/
theorem eval_exits_iff (shell : Shell) (line : Text) :
    (∀ p stage, Pipeline.parse shell.limits line = .ok p → p.stages = [stage] → stage.name = "exit".toList →
      shell.eval line = pure (shell.answered (Builtin.exitCode stage.args.tail))) ∧
    (∀ code, AsksExit shell.limits line code → shell.eval line = pure (.ok (.exit code), { shell with status := 0 })) ∧
    (∀ trace r after, Prog.Runs (shell.eval line) trace (r, after) →
      ∀ code, r = .ok (.exit code) ↔ AsksExit shell.limits line code) ∧
    ∀ (reaper : Prop) (s : State) (notes : List Noted), s.held = false →
      Prog.Concludes (noted reaper) (fun r _ => ∀ code, r.1 = .ok (.exit code) ↔ AsksExit shell.limits line code)
        (s, notes) (shell.eval line) := by
  have hruns : ∀ trace r, Prog.Runs (shell.eval line) trace r →
      ∀ code, r.1 = .ok (.exit code) ↔ AsksExit shell.limits line code := fun _ _ hr =>
    (ensures_eval_exit shell line false).runs hr
  refine ⟨fun _ _ => eval_of_exit, fun code => ?_, fun trace r after hr => hruns trace (r, after) hr,
    fun reaper s notes hs => ?_⟩
  · rintro ⟨p, stage, hp, hstage, hname, hcode⟩
    rw [eval_of_exit hp hstage hname, Builtin.exitCode_eq_ok_iff.mpr hcode]
    rfl
  · have hends : Prog.Concludes (noted reaper) (fun _ _ => True) (s, notes) (shell.eval line) :=
      Estate.concludes_of_ensures (Estate.halts_eval shell line) (Estate.ensures_eval_keeps hs shell line)
        fun _ _ _ _ _ => trivial
    exact (hends.and_runs hruns).mono fun r _ h => h.2

end Shell

end JobShell
