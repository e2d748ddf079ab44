import JobShell.Proofs.Prog.Run
import JobShell.Proofs.Prog.Trace

/-! # Programs that come to an end

A contract says nothing about whether a program ends. Here a program concludes if it does so in any case: no call is left
without a reply for good, no run goes on for ever, and where a run ends a condition holds and keeps holding. A call may
have to wait for something that happens by itself, such as the end of a child.

That a program concludes is shown in two parts. The contract of the surroundings says that no call has to wait for ever,
and what holds at the end; and no run is endless. -/

namespace JobShell

variable {σ α β : Type}

namespace Surroundings

/-- What can happen by itself in some time. -/
abbrev Drifts (W : Surroundings σ) : σ → σ → Prop := Relation.ReflTransGen W.Drift

/-- The call gets a reply, if not now then when some time has passed. -/
def Open (W : Surroundings σ) (c : Call) (s : σ) : Prop := ∃ s₁ r s₂, W.Drifts s s₁ ∧ W.Answer c s₁ r s₂

/-- What is known is a state at an earlier moment. A call may be made if it gets a reply. -/
def live (W : Surroundings σ) : Contract σ where
  pre c P k := ∀ s, W.Drifts k s → W.Open c s ∧ ∀ r s', W.Answer c s r s' → ∃ k', W.Drifts k' s' ∧ P r k'
  mono hPQ h s hs := ⟨(h s hs).1, fun r s' ha =>
    let ⟨k', hk', hp⟩ := (h s hs).2 r s' ha
    ⟨k', hk', hPQ r k' hp⟩⟩

end Surroundings

namespace Prog
variable {W : Surroundings σ} {s s' k : σ} {p q : Prog α} {f : α → Prog β}

theorem reaches_of_drifts (h : W.Drifts s s') (p : Prog α) : Reaches W (s, p) (s', p) :=
  h.lift (·, p) fun _ _ hd => .drift hd

/-- In any case the program ends, and behind its end `Q` holds. -/
inductive Concludes (W : Surroundings σ) {α : Type} (Q : α → σ → Prop) : σ → Prog α → Prop
  | done {s : σ} {a : α} (h : ∀ s', W.Drifts s s' → Q a s') : Concludes W Q s (.done a)
  | call {s : σ} {c : Call} {next : c.Reply → Prog α} (hopen : ∀ s₁, W.Drifts s s₁ → W.Open c s₁)
      (h : ∀ s₁ r s₂, W.Drifts s s₁ → W.Answer c s₁ r s₂ → Concludes W Q s₂ (next r)) :
      Concludes W Q s (.call c next)
  | loop {s : σ} {τ υ : Type} {body : τ → Prog (τ ⊕ υ)} {t : τ} {next : υ → Prog α}
      (h : Concludes W Q s (unroll body t next)) : Concludes W Q s (.loop body t next)

/-- No run of the program is endless. -/
inductive Finishes (W : Surroundings σ) {α : Type} : σ → Prog α → Prop
  | done {s : σ} {a : α} : Finishes W s (.done a)
  | call {s : σ} {c : Call} {next : c.Reply → Prog α}
      (h : ∀ s₁ r s₂, W.Drifts s s₁ → W.Answer c s₁ r s₂ → Finishes W s₂ (next r)) : Finishes W s (.call c next)
  | loop {s : σ} {τ υ : Type} {body : τ → Prog (τ ⊕ υ)} {t : τ} {next : υ → Prog α}
      (h : Finishes W s (unroll body t next)) : Finishes W s (.loop body t next)

namespace Concludes
variable {P Q : α → σ → Prop}

theorem mono (h : Concludes W P s p) (hPQ : ∀ a s, P a s → Q a s) : Concludes W Q s p := by
  induction h with
  | done h => exact .done fun s' hs => hPQ _ _ (h s' hs)
  | call hopen _ ih => exact .call hopen ih
  | loop _ ih => exact .loop ih

/-- What holds behind every trace holds where the program concludes. -/
theorem and_runs {R : α → Prop} (h : Concludes W Q s p) (hR : ∀ trace a, Runs p trace a → R a) :
    Concludes W (fun a s => Q a s ∧ R a) s p := by
  induction h with
  | done h => exact .done fun s' hs => ⟨h s' hs, hR [] _ (.done _)⟩
  | call hopen _ ih => exact .call hopen fun s₁ r s₂ hs ha => ih s₁ r s₂ hs ha fun _ a hr => hR _ a (.call hr)
  | loop _ ih => exact .loop (ih fun _ a hr => hR _ a (.loop hr))

/-- Where less can happen, a program concludes with the same, as long as no call is left without a reply. -/
theorem narrow {V : Surroundings σ} (hdrift : ∀ s s', V.Drift s s' → W.Drift s s')
    (hanswer : ∀ c s r s', V.Answer c s r s' → W.Answer c s r s') (hopen : ∀ c s, W.Open c s → V.Open c s)
    (h : Concludes W Q s p) : Concludes V Q s p := by
  have drifts : ∀ {s s'}, V.Drifts s s' → W.Drifts s s' := fun hd => hd.lift id hdrift
  induction h with
  | done h => exact .done fun s' hs => h s' (drifts hs)
  | call hlive _ ih =>
    exact .call (fun s₁ hs => hopen _ s₁ (hlive s₁ (drifts hs))) fun s₁ r s₂ hs ha =>
      ih s₁ r s₂ (drifts hs) (hanswer _ _ _ _ ha)
  | loop _ ih => exact .loop ih

theorem drift (h : Concludes W Q s p) (hd : W.Drift s s') : Concludes W Q s' p := by
  induction h with
  | done h => exact .done fun s₁ hs => h s₁ (.head hd hs)
  | call hopen h _ => exact .call (fun s₁ hs => hopen s₁ (.head hd hs)) fun s₁ r s₂ hs => h s₁ r s₂ (.head hd hs)
  | loop _ ih => exact .loop (ih hd)

theorem drifts (h : Concludes W Q s p) (hd : W.Drifts s s') : Concludes W Q s' p := by
  induction hd with
  | refl => exact h
  | tail _ hd ih => exact ih.drift hd

theorem step {x y : σ × Prog α} (h : Concludes W Q x.1 x.2) (hs : Step W x y) : Concludes W Q y.1 y.2 := by
  cases hs with
  | drift hd => exact h.drift hd
  | call ha =>
    cases h with
    | call _ h => exact h _ _ _ .refl ha
  | unroll =>
    cases h with
    | loop h => exact h

/-- Where a run ends, there is what the program concludes with. -/
theorem ends {a : α} (h : Concludes W Q s p) (hr : Reaches W (s, p) (s', .done a)) : Q a s' := by
  have hall : ∀ {y}, Reaches W (s, p) y → Concludes W Q y.1 y.2 := by
    intro y hy
    induction hy with
    | refl => exact h
    | tail _ hs ih => exact ih.step hs
  cases hall hr with
  | done h => exact h s' .refl

/-- What a program concludes with is where a run of it ends. -/
theorem reached (h : Concludes W Q s p) :
    Concludes W (fun a s' => Q a s' ∧ Reaches W (s, p) (s', .done a)) s p := by
  suffices hall : ∀ x, Reaches W x (s, p) → Concludes W (fun a s' => Q a s' ∧ Reaches W x (s', .done a)) s p from
    hall _ .refl
  intro x hx
  induction h with
  | done h => exact .done fun s' hs => ⟨h s' hs, hx.trans (reaches_of_drifts hs _)⟩
  | call hopen _ ih =>
    exact .call hopen fun s₁ r s₂ hs ha => ih s₁ r s₂ hs ha ((hx.trans (reaches_of_drifts hs _)).tail (.call ha))
  | loop _ ih => exact .loop (ih (hx.tail .unroll))

theorem bind {Q : β → σ → Prop} (h : Concludes W (fun a s => Concludes W Q s (f a)) s p) :
    Concludes W Q s (p.bind f) := by
  induction h with
  | done h => exact h _ .refl
  | call hopen _ ih => exact .call hopen ih
  | loop _ ih =>
    refine .loop ?_
    rw [← unroll_bind]
    exact ih

theorem of_bind {Q : β → σ → Prop} (h : Concludes W Q s (p.bind f)) :
    Concludes W (fun a s => Concludes W Q s (f a)) s p := by
  generalize hq : p.bind f = q at h
  have stops : ∀ {a : α} {q : Prog β} {s : σ}, (Prog.done a).bind f = q → Concludes W Q s q →
      Concludes W (fun a s => Concludes W Q s (f a)) s (Prog.done a) := by
    rintro a _ s rfl h
    exact .done fun s' hs => h.drifts hs
  induction h generalizing p with
  | done h =>
    cases p with
    | done a => exact stops hq (.done h)
    | call c next => cases hq
    | loop body t next => cases hq
  | call hopen h ih =>
    cases p with
    | done a => exact stops hq (.call hopen h)
    | call c next =>
      cases hq
      exact .call hopen fun s₁ r s₂ hs ha => ih s₁ r s₂ hs ha rfl
    | loop body t next => cases hq
  | loop h ih =>
    cases p with
    | done a => exact stops hq (.loop h)
    | call c next => cases hq
    | loop body t next =>
      cases hq
      exact .loop (ih unroll_bind)

/-- Writing a repetition out does not change what a program concludes with. -/
theorem of_unfolds (hu : Unfolds p q) (h : Concludes W Q s q) : Concludes W Q s p := by
  induction hu generalizing s with
  | refl => exact h
  | trans _ _ ihp ihq => exact ihp (ihq h)
  | bind p _ ih => exact .bind (h.of_bind.mono fun a s hs => ih a hs)
  | unroll => exact .loop h

end Concludes

/-- A program that keeps to the contract of live surroundings and has no endless run concludes with what it ensures. -/
theorem Finishes.concludes {Q : α → σ → Prop} (hf : Finishes W s p) (hk : W.Drifts k s) (hp : p.Ensures W.live Q k) :
    Concludes W (fun a s' => ∃ k', W.Drifts k' s' ∧ Q a k') s p := by
  induction hf generalizing k with
  | done => exact .done fun s' hs => ⟨k, hk.trans hs, hp⟩
  | call _ ih =>
    refine .call (fun s₁ hs => (hp s₁ (hk.trans hs)).1) fun s₁ r s₂ hs ha => ?_
    obtain ⟨k', hk', hp'⟩ := (hp s₁ (hk.trans hs)).2 r s₂ ha
    exact ih s₁ r s₂ hs ha hk' hp'
  | loop _ ih => exact .loop (ih hk hp.unroll)

/-- Where a run ends, there is what the program ensures. -/
theorem Ensures.ends_live {Q : α → σ → Prop} {a : α} (hp : p.Ensures W.live Q k) (hk : W.Drifts k s)
    (hr : Reaches W (s, p) (s', .done a)) : ∃ k', W.Drifts k' s' ∧ Q a k' := by
  have hall : ∀ {y}, Reaches W (s, p) y → ∃ k', W.Drifts k' y.1 ∧ y.2.Ensures W.live Q k' := by
    intro y hy
    induction hy with
    | refl => exact ⟨k, hk, hp⟩
    | tail _ hs ih =>
      obtain ⟨k₁, hk₁, hp₁⟩ := ih
      cases hs with
      | drift hd => exact ⟨k₁, hk₁.tail hd, hp₁⟩
      | call ha => exact (hp₁ _ hk₁).2 _ _ ha
      | unroll => exact ⟨k₁, hk₁, hp₁.unroll⟩
  exact hall hr

/-! ### Programs without endless runs -/

/-- A run of the first of two programs is the beginning of a run of both. -/
theorem Reaches.bind {a : α} (h : Reaches W (s, p) (s', .done a)) (f : α → Prog β) :
    Reaches W (s, p.bind f) (s', f a) := by
  refine h.lift (fun x => (x.1, x.2.bind f)) ?_
  rintro _ _ (hd | ha | _)
  · exact .drift hd
  · exact .call ha
  · show Step W _ (_, (unroll _ _ _).bind f)
    rw [unroll_bind]
    exact .unroll

/-- The same for a program that may fail: what goes on does so only if the first has not failed. -/
theorem Reaches.run_bind {ε : Type} {x : ExceptT ε Prog α} {r : Except ε α} (h : Reaches W (s, x.run) (s', .done r))
    (f : α → ExceptT ε Prog β) : Reaches W (s, (x >>= f).run) (s', match r with
      | .ok a => (f a).run
      | .error e => .done (.error e)) := by
  cases r <;> exact h.bind _

theorem Finishes.bind (hf : Finishes W s p) (h : ∀ a s', Reaches W (s, p) (s', .done a) → Finishes W s' (f a)) :
    Finishes W s (p.bind f) := by
  induction hf with
  | done => exact h _ _ .refl
  | call _ ih =>
    refine .call fun s₁ r s₂ hs ha => ih s₁ r s₂ hs ha fun a s' hr => h a s' ?_
    exact ((reaches_of_drifts hs _).tail (.call ha)).trans hr
  | loop _ ih =>
    refine .loop ?_
    rw [← unroll_bind]
    exact ih fun a s' hr => h a s' (.head .unroll hr)

/-- No run of the program is endless, from whatever state. -/
def Halts (W : Surroundings σ) (p : Prog α) : Prop := ∀ s, Finishes W s p

theorem halts_pure (a : α) : Halts W (pure a : Prog α) := fun _ => .done

theorem halts_bind (hp : Halts W p) (hf : ∀ a, Halts W (f a)) : Halts W (p >>= f) := fun s =>
  (hp s).bind fun a s' _ => hf a s'

theorem halts_perform (c : Call) : Halts W (perform c) := fun _ => .call fun _ _ _ _ _ => .done

theorem halts_run_bind {ε : Type} {x : ExceptT ε Prog α} {g : α → ExceptT ε Prog β} (hx : Halts W x.run)
    (hg : ∀ a, Halts W (g a).run) : Halts W (x >>= g).run :=
  halts_bind hx fun r => by
    cases r with
    | ok a => exact hg a
    | error e => exact halts_pure _

theorem halts_lift {ε : Type} (hp : Halts W p) : Halts W (ExceptT.lift p : ExceptT ε Prog α).run :=
  halts_bind hp fun _ => halts_pure _

/-- A repetition comes to an end if each time lowers a measure. -/
theorem halts_repeated {τ υ : Type} {body : τ → Prog (τ ⊕ υ)} (μ : τ → σ → Nat)
    (hbody : ∀ t, Halts W (body t))
    (hless : ∀ t s t' s', Reaches W (s, body t) (s', .done (.inl t')) → μ t' s' < μ t s) (t : τ) :
    Halts W (repeated body t) := by
  intro s
  induction hn : μ t s using Nat.strongRecOn generalizing t s with
  | ind n ih =>
    subst hn
    refine .loop ((hbody t s).bind fun x s' hr => ?_)
    cases x with
    | inl t' => exact ih _ (hless t s t' s' hr) t' s' rfl
    | inr b => exact .done

end Prog

end JobShell
