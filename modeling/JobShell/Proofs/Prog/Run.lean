import JobShell.Proofs.Prog.Contract
import Mathlib.Logic.Relation

/-! # Runs of a program

Surroundings say what a contract leaves open: how a call may be replied to in a state, and how the state may change
between two calls. A run of a program goes on step by step in its surroundings. What is known of a state is a view of
it that does not change by itself, and a program that keeps to the contract of this view ends as it ensures. -/

namespace JobShell

universe u

/-- How calls are replied to in a state, and what happens without a call. -/
structure Surroundings (σ : Type) where
  Answer : (c : Call) → σ → c.Reply → σ → Prop
  Drift : σ → σ → Prop

variable {σ α : Type} {κ : Type u}

/-- Every call is allowed, and behind it is known what the surroundings say. -/
def Surroundings.contract (W : Surroundings σ) (view : σ → κ) : Contract κ where
  pre c P k := ∀ s r s', view s = k → W.Answer c s r s' → P r (view s')
  mono hPQ h s r s' hs ha := hPQ _ _ (h s r s' hs ha)

namespace Prog
variable {W : Surroundings σ} {view : σ → κ}

inductive Step (W : Surroundings σ) : σ × Prog α → σ × Prog α → Prop
  | drift {s s' : σ} {p : Prog α} (h : W.Drift s s') : Step W (s, p) (s', p)
  | call {s s' : σ} {c : Call} {next : c.Reply → Prog α} {r : c.Reply} (h : W.Answer c s r s') :
      Step W (s, .call c next) (s', next r)
  | unroll {s : σ} {τ β : Type} {body : τ → Prog (τ ⊕ β)} {t : τ} {next : β → Prog α} :
      Step W (s, .loop body t next) (s, Prog.unroll body t next)

abbrev Reaches (W : Surroundings σ) : σ × Prog α → σ × Prog α → Prop := Relation.ReflTransGen (Step W)

/-- What a program ensures, what is left of it ensures behind a step. -/
theorem Ensures.step {Q : α → κ → Prop} {x y : σ × Prog α} (hview : ∀ {s s'}, W.Drift s s' → view s' = view s)
    (hp : x.2.Ensures (W.contract view) Q (view x.1)) (h : Step W x y) :
    y.2.Ensures (W.contract view) Q (view y.1) := by
  cases h with
  | drift hd => exact hview hd ▸ hp
  | call ha => exact hp _ _ _ rfl ha
  | unroll => exact hp.unroll

theorem Ensures.reaches {Q : α → κ → Prop} {x y : σ × Prog α} (hview : ∀ {s s'}, W.Drift s s' → view s' = view s)
    (hp : x.2.Ensures (W.contract view) Q (view x.1)) (h : Reaches W x y) :
    y.2.Ensures (W.contract view) Q (view y.1) := by
  induction h with
  | refl => exact hp
  | tail _ h ih => exact ih.step hview h

/-- Where a run ends, there is what the program ensures. -/
theorem Ensures.ends {Q : α → κ → Prop} {s s' : σ} {p : Prog α} {a : α}
    (hview : ∀ {s s'}, W.Drift s s' → view s' = view s) (hp : p.Ensures (W.contract view) Q (view s))
    (h : Reaches W (s, p) (s', .done a)) : Q a (view s') :=
  Ensures.reaches hview hp h

end Prog

end JobShell
