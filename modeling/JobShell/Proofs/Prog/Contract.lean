import JobShell.Kernel.Prog

/-! # Contracts of calls

A contract says of each call when it may be made and what is known behind it. What is known is a value of a type of
its own, so that the same program can be looked at under several contracts. A program ensures a condition if it keeps
to the contract whatever the replies are, and the condition holds where it ends. Nothing is said about whether it
ends. -/

namespace JobShell

universe u

/-- For each call, what has to hold so that a condition holds of its reply. -/
structure Contract (κ : Type u) where
  pre : (c : Call) → (c.Reply → κ → Prop) → κ → Prop
  mono : ∀ {c : Call} {P Q : c.Reply → κ → Prop} {k : κ}, (∀ r k, P r k → Q r k) → pre c P k → pre c Q k

namespace Prog

variable {κ : Type u} {K : Contract κ} {α β σ : Type}

/-- The program keeps to the contract and ends, if it does, with `Q`. What a repetition keeps is an invariant. -/
def Ensures (K : Contract κ) : {α : Type} → Prog α → (α → κ → Prop) → κ → Prop
  | _, .done a, Q, k => Q a k
  | _, .call c next, Q, k => K.pre c (fun r k => (next r).Ensures K Q k) k
  | _, @loop _ σ _ body s next, Q, k => ∃ I : σ → κ → Prop, I s k ∧ ∀ s k, I s k →
      (body s).Ensures K (fun x k => x.elim (fun s => I s k) fun b => (next b).Ensures K Q k) k

theorem Ensures.mono {p : Prog α} {P Q : α → κ → Prop} {k : κ} (h : p.Ensures K P k) (hPQ : ∀ a k, P a k → Q a k) :
    p.Ensures K Q k := by
  induction p generalizing k with
  | done a => exact hPQ a k h
  | call c next ih => exact K.mono (fun r k hr => ih r hr hPQ) h
  | loop body s next ihb ihn =>
    obtain ⟨I, hI, hbody⟩ := h
    refine ⟨I, hI, fun s k hs => ihb s (hbody s k hs) fun x k hx => ?_⟩
    cases x with
    | inl s => exact hx
    | inr b => exact ihn b hx hPQ

theorem Ensures.bind {p : Prog α} {f : α → Prog β} {Q : β → κ → Prop} {k : κ}
    (h : p.Ensures K (fun a k => (f a).Ensures K Q k) k) : (p.bind f).Ensures K Q k := by
  induction p generalizing k with
  | done a => exact h
  | call c next ih => exact K.mono (fun r k hr => ih r hr) h
  | loop body s next ihb ihn =>
    obtain ⟨I, hI, hbody⟩ := h
    refine ⟨I, hI, fun s k hs => (hbody s k hs).mono fun x k hx => ?_⟩
    cases x with
    | inl s => exact hx
    | inr b => exact ihn b hx

/-- A repetition that is written out once ensures what it ensures. -/
theorem Ensures.unroll {body : σ → Prog (σ ⊕ β)} {s : σ} {next : β → Prog α} {Q : α → κ → Prop} {k : κ}
    (h : (loop body s next).Ensures K Q k) : (Prog.unroll body s next).Ensures K Q k := by
  obtain ⟨I, hI, hbody⟩ := h
  refine Ensures.bind ((hbody s k hI).mono fun x k hx => ?_)
  cases x with
  | inl s => exact ⟨I, hx, hbody⟩
  | inr b => exact hx

theorem ensures_repeated {body : σ → Prog (σ ⊕ β)} {s : σ} {Q : β → κ → Prop} {k : κ} (I : σ → κ → Prop) (hI : I s k)
    (hbody : ∀ s k, I s k → (body s).Ensures K (fun x k => x.elim (fun s => I s k) fun b => Q b k) k) :
    (repeated body s).Ensures K Q k :=
  ⟨I, hI, hbody⟩

theorem ensures_pure {a : α} {Q : α → κ → Prop} {k : κ} (h : Q a k) : (pure a : Prog α).Ensures K Q k := h

theorem ensures_bind {p : Prog α} {f : α → Prog β} {Q : β → κ → Prop} {k : κ}
    (h : p.Ensures K (fun a k => (f a).Ensures K Q k) k) : (p >>= f).Ensures K Q k :=
  Ensures.bind h

theorem ensures_call {c : Call} {Q : c.Reply → κ → Prop} {k : κ} (h : K.pre c Q k) : (perform c).Ensures K Q k := h

theorem ensures_perform {c : Call} {f : c.Reply → Prog β} {Q : β → κ → Prop} {k : κ}
    (h : K.pre c (fun r k => (f r).Ensures K Q k) k) : (perform c >>= f).Ensures K Q k := h

/-- A program that may fail, and what goes on if it does not. -/
theorem ensures_run_bind {ε : Type} {x : ExceptT ε Prog α} {f : α → ExceptT ε Prog β} {Q : Except ε β → κ → Prop}
    {k : κ} (h : x.run.Ensures K (fun r k => match r with
      | .ok a => (f a).run.Ensures K Q k
      | .error e => Q (.error e) k) k) : (x >>= f).run.Ensures K Q k :=
  Ensures.bind (h.mono fun r _ hr => by
    cases r with
    | ok a => exact hr
    | error e => exact hr)

theorem ensures_lift_bind {ε : Type} {p : Prog α} {f : α → ExceptT ε Prog β} {Q : Except ε β → κ → Prop} {k : κ}
    (h : p.Ensures K (fun a k => (f a).run.Ensures K Q k) k) : (ExceptT.lift p >>= f).run.Ensures K Q k :=
  ensures_run_bind (Ensures.bind h)

/-- A program that does not return ensures whatever is asked for. -/
theorem ensures_never {p : Prog Empty} {Q : α → κ → Prop} {k : κ} (h : p.Ensures K (fun _ _ => True) k) :
    (never p).Ensures K Q k :=
  Ensures.bind (h.mono fun e _ _ => e.elim)

end Prog

end JobShell
