import JobShell.Failure
import JobShell.Kernel.Call

/-! # Programs

A program is the tree of its calls: it is done, or it makes a call and goes on with the reply, or it repeats a
part of itself. What the calls do is not said here. So the same program can be run on a machine, and reasoned
about for every behaviour of the kernel and of the other programs. -/

namespace JobShell

/-- A program that ends with a value. -/
inductive Prog : Type → Type 1
  | done {α : Type} (a : α) : Prog α
  | call {α : Type} (c : Call) (next : c.Reply → Prog α) : Prog α
  /-- Runs `body` again and again, each time with the left value of the time before, until it ends right. -/
  | loop {α σ β : Type} (body : σ → Prog (σ ⊕ β)) (s : σ) (next : β → Prog α) : Prog α

namespace Prog

/-- One program after the other. -/
def bind {α β : Type} : Prog α → (α → Prog β) → Prog β
  | done a, f => f a
  | call c next, f => call c fun r => (next r).bind f
  | loop body s next, f => loop body s fun b => (next b).bind f

instance : Monad Prog where
  pure := done
  bind := bind

theorem bind_done {α : Type} (p : Prog α) : p.bind done = p := by
  induction p with
  | done a => rfl
  | call c next ih => simp only [bind, ih]
  | loop body s next _ ih => simp only [bind, ih]

theorem bind_assoc {α β γ : Type} (p : Prog α) (f : α → Prog β) (g : β → Prog γ) :
    (p.bind f).bind g = p.bind fun a => (f a).bind g := by
  induction p with
  | done a => rfl
  | call c next ih => simp only [bind, ih]
  | loop body s next _ ih => simp only [bind, ih]

instance : LawfulMonad Prog :=
  LawfulMonad.mk' Prog bind_done (fun _ _ => rfl) bind_assoc

/-- The program that makes one call. -/
def perform (c : Call) : Prog c.Reply :=
  call c done

/-- The program that repeats `body` until it ends right. -/
def repeated {σ β : Type} (body : σ → Prog (σ ⊕ β)) (s : σ) : Prog β :=
  loop body s done

/-- What a program does first, when the repetition at its root is written out once. -/
def unroll {α σ β : Type} (body : σ → Prog (σ ⊕ β)) (s : σ) (next : β → Prog α) : Prog α :=
  (body s).bind fun
    | .inl s => loop body s next
    | .inr b => next b

/-- A program that does not return ends with whatever is asked for. -/
def never {α : Type} (p : Prog Empty) : Prog α :=
  p.bind Empty.elim

end Prog

/-- A program that ends with a value or fails. -/
abbrev Action := ExceptT Failure Prog

end JobShell
