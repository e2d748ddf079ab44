import JobShell.Proofs.Job.History
import JobShell.Proofs.Line.Rules
import JobShell.Proofs.Prog.Note

/-! # What builtins do to the job table

Four of the five builtins leave the job table as it is. The fifth, `fg`, takes out the job that it has waited for,
however the wait ends, and nothing else. The table is the interpreter's alone here; all that is not about the table can
be replied to in any way. -/

namespace JobShell.Builtin
open JobTable (Operation Follows)

/-! ### A table that nobody else takes -/

structure Desk where
  table : JobTable
  /-- The table has been taken. -/
  taken : Bool

namespace Desk

def Answer : (c : Call) → Desk → c.Reply → Desk → Prop
  | .acquireJobs, s, table, s' => s.taken = false ∧ table = s.table ∧ s' = { s with taken := true }
  | .releaseJobs table, s, _, s' => s.taken = true ∧ s' = ⟨table, false⟩
  | _, s, _, s' => s' = s

/-- The calls on which it depends how far `fg` gets, with what they were replied. -/
inductive Heard
  | printed (text : Text) (r : Except Errno Unit)
  | signaled (group : Pid) (signal : Nat) (r : Except Errno Unit)
  | waited (pid : Pid) (r : Except Errno Report)

def heard? : (c : Call) → c.Reply → Option Heard
  | .print text, r => some (.printed text r)
  | .killGroup group n, r => some (.signaled group n r)
  | .wait pid _, r => some (.waited pid r)
  | _, _ => none

/-- Nothing happens to the table without the interpreter, and notes are kept of what is heard. -/
def surroundings : Surroundings (Desk × List Heard) := Surroundings.noting ⟨Answer, fun _ _ => False⟩ heard?

abbrev contract : Contract (Desk × List Heard) := surroundings.contract id

theorem step_call {α : Type} {k : Desk × List Heard} {s' : Desk} (c : Call) {next : c.Reply → Prog α} (r : c.Reply)
    (h : Answer c k.1 r s') : Prog.Step surroundings (k, .call c next) ((s', k.2 ++ (heard? c r).toList), next r) :=
  .call ⟨h, rfl⟩

/-- The calls that are not about the table. -/
def Apart : Call → Prop
  | .acquireJobs | .releaseJobs _ => False
  | _ => True

theorem pre_apart {k : Desk × List Heard} (c : Call) (hc : Apart c) {P : c.Reply → Desk × List Heard → Prop}
    (h : ∀ r, P r (k.1, k.2 ++ (heard? c r).toList)) : contract.pre c P k := by
  rintro s r ⟨s', l'⟩ rfl ⟨ha, rfl⟩
  obtain rfl : s' = s.1 := by cases c <;> first | exact hc.elim | exact ha
  exact h r

theorem ignores_of_unheard (c : Call) (hc : Apart c) (hn : ∀ r, heard? c r = none) : contract.Ignores c := by
  intro P k h
  refine pre_apart c hc fun r => ?_
  rw [hn, Option.toList_none, List.append_nil]
  exact h r

theorem ignoresTerminal : contract.IgnoresTerminal where
  isTerminal d := ignores_of_unheard (.isTerminal d) trivial fun _ => rfl
  blockSignal s b := ignores_of_unheard (.blockSignal s b) trivial fun _ => rfl
  setForeground d g := ignores_of_unheard (.setForeground d g) trivial fun _ => rfl
  ownGroup := ignores_of_unheard .ownGroup trivial fun _ => rfl

variable {t : JobTable} {notes : List Heard} {pid : Pid}

/-- The table is taken, and another one is given back. -/
theorem pre_update {P : JobTable → Unit → Desk × List Heard → Prop} {f : JobTable → JobTable}
    (h : P t () (⟨f t, false⟩, notes)) :
    contract.pre .acquireJobs (fun t => contract.pre (.releaseJobs (f t)) (P t)) (⟨t, false⟩, notes) := by
  rintro _ table ⟨s₁, l₁⟩ rfl ⟨⟨-, rfl, rfl⟩, rfl⟩
  rintro _ ⟨⟩ ⟨s₂, l₂⟩ hs ⟨⟨-, rfl⟩, rfl⟩
  cases hs
  simpa [heard?] using h

/-- The calls of one wait: the shell has waited again until a reply told of an end, or of a failure. -/
def Waits (pid : Pid) (waits : List Heard) (answer : Except Failure (Option Status)) : Prop :=
  ∃ (before : List (Except Errno Report)) (last : Except Errno Report),
    waits = before.map (.waited pid) ++ [.waited pid last] ∧ (∀ r ∈ before, waited? pid r = none) ∧
      waited? pid last = some answer

theorem ensures_waitFor : (waitFor pid).Ensures contract
    (fun answer k' => ∃ waits, Waits pid waits answer ∧ k' = (⟨t, false⟩, notes ++ waits)) (⟨t, false⟩, notes) := by
  refine ensures_waitFor_of (fun k => ∃ before : List (Except Errno Report), (∀ r ∈ before, waited? pid r = none) ∧
    k = (⟨t, false⟩, notes ++ before.map (.waited pid))) ⟨[], by simp⟩ ?_
  rintro _ ⟨before, hbefore, rfl⟩
  refine pre_apart (.wait pid true) trivial fun r => ?_
  dsimp only [heard?, Option.toList_some]
  cases hr : waited? pid r with
  | none => exact ⟨before ++ [r], by simpa [or_imp, forall_and] using ⟨hbefore, hr⟩, by simp⟩
  | some answer => exact ⟨_, ⟨before, r, rfl, hbefore, hr⟩, by rw [List.append_assoc]⟩

end Desk

/-! ### The builtins -/

open Desk

variable {t : JobTable} {args : List Text} {notes : List Heard} {id : Nat} {job : Job}

/-- The arguments name a job of the table by its id. -/
def Names (b : Builtin) (args : List Text) (t : JobTable) (id : Nat) (job : Job) : Prop :=
  b.jobId args = .ok id ∧ t.find? id = some job

/-- How `fg` writes the text of the job that it has found. -/
def shows (job : Job) (r : Except Errno Unit) : Heard := .printed (job.text ++ ['\n']) r

theorem ensures_findJob (b : Builtin) (args : List Text) : (b.findJob args).run.Ensures contract
    (fun r k' => k' = (⟨t, false⟩, notes) ∧ match r with
      | .ok job => ∃ id, b.Names args t id job
      | .error f => b.jobId args = .error f ∨
          ∃ id, b.jobId args = .ok id ∧ t.find? id = none ∧ f = .noSuchJob b.name id)
    (⟨t, false⟩, notes) := by
  refine ensures_findJob_of (fun f hf => ⟨rfl, .inl hf⟩) fun id hid => ensures_look_of (pre_update ?_)
  cases hfound : t.find? id with
  | none => exact ⟨rfl, .inr ⟨id, hid, hfound, rfl⟩⟩
  | some job => exact ⟨rfl, id, hid, hfound⟩

end JobShell.Builtin
