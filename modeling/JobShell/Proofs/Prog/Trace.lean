import JobShell.Kernel.Prog

/-! # Traces

A trace of a program lists its calls with the replies that it got, up to its end. The replies are any that there can
be. Two programs with the same traces and the same ends cannot be told apart, whatever the kernel does. -/

namespace JobShell.Prog

/-- A call with the reply to it. -/
structure Event where
  call : Call
  reply : call.Reply

/-- The program makes the calls of a trace, one after the other, and ends with a value. -/
inductive Runs {α : Type} : Prog α → List Event → α → Prop
  | done (a : α) : Runs (.done a) [] a
  | call {c : Call} {next : c.Reply → Prog α} {r : c.Reply} {trace : List Event} {a : α} (h : Runs (next r) trace a) :
      Runs (.call c next) (⟨c, r⟩ :: trace) a
  | loop {σ β : Type} {body : σ → Prog (σ ⊕ β)} {s : σ} {next : β → Prog α} {trace : List Event} {a : α}
      (h : Runs (unroll body s next) trace a) : Runs (.loop body s next) trace a

variable {α β σ τ : Type} {trace : List Event}

theorem runs_done_iff {a b : α} : Runs (.done a) trace b ↔ trace = [] ∧ b = a := by
  constructor
  · rintro (_ | _)
    exact ⟨rfl, rfl⟩
  · rintro ⟨rfl, rfl⟩
    exact .done b

theorem runs_call_iff {c : Call} {next : c.Reply → Prog α} {a : α} :
    Runs (.call c next) trace a ↔ ∃ r t, trace = ⟨c, r⟩ :: t ∧ Runs (next r) t a := by
  constructor
  · rintro (_ | h)
    exact ⟨_, _, rfl, h⟩
  · rintro ⟨r, t, rfl, h⟩
    exact .call h

theorem runs_loop_iff {body : σ → Prog (σ ⊕ τ)} {s : σ} {next : τ → Prog α} {a : α} :
    Runs (.loop body s next) trace a ↔ Runs (unroll body s next) trace a := by
  constructor
  · rintro (_ | _ | h)
    exact h
  · exact .loop

theorem unroll_bind {body : σ → Prog (σ ⊕ τ)} {s : σ} {next : τ → Prog α} {f : α → Prog β} :
    (unroll body s next).bind f = unroll body s fun b => (next b).bind f := by
  rw [unroll, unroll, bind_assoc]
  congr 1
  funext x
  cases x <;> rfl

theorem Runs.bind {p : Prog α} {f : α → Prog β} {a : α} {b : β} {trace' : List Event} (hp : Runs p trace a)
    (hf : Runs (f a) trace' b) : Runs (p.bind f) (trace ++ trace') b := by
  induction hp with
  | done a => exact hf
  | call _ ih => exact .call (ih hf)
  | loop _ ih =>
    refine .loop ?_
    rw [← unroll_bind]
    exact ih hf

/-- The trace of one program after the other is cut where the first ends. -/
theorem runs_bind_iff {p : Prog α} {f : α → Prog β} {b : β} :
    Runs (p.bind f) trace b ↔ ∃ t a t', trace = t ++ t' ∧ Runs p t a ∧ Runs (f a) t' b := by
  have stops : ∀ {a : α} {q : Prog β} {t : List Event} {b : β}, (done a).bind f = q → Runs q t b →
      ∃ t₁ a' t₂, t = t₁ ++ t₂ ∧ Runs (.done a) t₁ a' ∧ Runs (f a') t₂ b :=
    fun {a} _ t _ hq h => ⟨[], a, t, rfl, .done a, by rwa [← hq] at h⟩
  constructor
  · generalize hq : p.bind f = q
    intro h
    induction h generalizing p with
    | done b =>
      cases p with
      | done a => exact stops hq (.done b)
      | call c next => cases hq
      | loop body s next => cases hq
    | call h ih =>
      cases p with
      | done a => exact stops hq (.call h)
      | call c next =>
        cases hq
        obtain ⟨t, a, t', rfl, hp, hf⟩ := ih rfl
        exact ⟨_, a, t', rfl, .call hp, hf⟩
      | loop body s next => cases hq
    | loop h ih =>
      cases p with
      | done a => exact stops hq (.loop h)
      | call c next => cases hq
      | loop body s next =>
        cases hq
        obtain ⟨t, a, t', rfl, hp, hf⟩ := ih unroll_bind
        exact ⟨t, a, t', rfl, .loop hp, hf⟩
  · rintro ⟨t, a, t', rfl, hp, hf⟩
    exact hp.bind hf

/-- A trace of a program that may fail, followed by another if it does not. -/
theorem runs_run_bind_iff {ε : Type} {x : ExceptT ε Prog α} {f : α → ExceptT ε Prog β} {r : Except ε β} :
    Runs (x >>= f).run trace r ↔ (∃ e, Runs x.run trace (.error e) ∧ r = .error e) ∨
      ∃ t a t', trace = t ++ t' ∧ Runs x.run t (.ok a) ∧ Runs (f a).run t' r := by
  refine runs_bind_iff.trans ⟨?_, ?_⟩
  · rintro ⟨t, e | a, t', rfl, hx, hf⟩
    · obtain ⟨rfl, rfl⟩ := runs_done_iff.mp hf
      exact .inl ⟨e, by rwa [List.append_nil], rfl⟩
    · exact .inr ⟨t, a, t', rfl, hx, hf⟩
  · rintro (⟨e, hx, rfl⟩ | ⟨t, a, t', rfl, hx, hf⟩)
    · exact ⟨trace, .error e, [], (List.append_nil _).symm, hx, .done _⟩
    · exact ⟨t, .ok a, t', rfl, hx, hf⟩

/-! ### Repetitions written out -/

/-- The second program is the first with some of its repetitions written out for some of their times. -/
inductive Unfolds : {α : Type} → Prog α → Prog α → Prop
  | refl {α : Type} (p : Prog α) : Unfolds p p
  | trans {α : Type} {p q r : Prog α} (hp : Unfolds p q) (hq : Unfolds q r) : Unfolds p r
  | bind {α β : Type} (p : Prog α) {f g : α → Prog β} (h : ∀ a, Unfolds (f a) (g a)) : Unfolds (p.bind f) (p.bind g)
  | unroll {α σ τ : Type} {body : σ → Prog (σ ⊕ τ)} {s : σ} {next : τ → Prog α} :
      Unfolds (.loop body s next) (unroll body s next)

theorem Unfolds.bind_left {p q : Prog α} (h : Unfolds p q) (f : α → Prog β) : Unfolds (p.bind f) (q.bind f) := by
  induction h with
  | refl p => exact .refl _
  | trans _ _ ihp ihq => exact (ihp f).trans (ihq f)
  | bind p _ ih =>
    rw [bind_assoc, bind_assoc]
    exact .bind p fun a => ih a f
  | unroll =>
    rw [unroll_bind]
    exact .unroll

/-- Writing a repetition out does not change what a program does. -/
theorem Unfolds.runs_iff {p q : Prog α} (h : Unfolds p q) {a : α} : Runs p trace a ↔ Runs q trace a := by
  induction h generalizing trace with
  | refl p => rfl
  | trans _ _ ihp ihq => exact ihp.trans ihq
  | bind p _ ih => simp only [runs_bind_iff, ih]
  | unroll => exact runs_loop_iff

/-! ### The calls of a program -/

/-- Behind the calls of a trace the program makes a call, whatever becomes of it. -/
inductive Arrives {α : Type} : Prog α → List Event → Call → Prop
  | here {c : Call} {next : c.Reply → Prog α} : Arrives (.call c next) [] c
  | call {c c' : Call} {next : c.Reply → Prog α} {r : c.Reply} {trace : List Event} (h : Arrives (next r) trace c') :
      Arrives (.call c next) (⟨c, r⟩ :: trace) c'
  | loop {σ β : Type} {body : σ → Prog (σ ⊕ β)} {s : σ} {next : β → Prog α} {trace : List Event} {c : Call}
      (h : Arrives (unroll body s next) trace c) : Arrives (.loop body s next) trace c

theorem not_arrives_done {a : α} {c : Call} : ¬ Arrives (.done a) trace c := nofun

theorem Arrives.bind {p : Prog α} {c : Call} (h : Arrives p trace c) (f : α → Prog β) : Arrives (p.bind f) trace c := by
  induction h with
  | here => exact .here
  | call _ ih => exact .call ih
  | loop _ ih =>
    refine .loop ?_
    rw [← unroll_bind]
    exact ih

theorem Runs.bind_arrives {p : Prog α} {f : α → Prog β} {a : α} {c : Call} {trace' : List Event} (hp : Runs p trace a)
    (hf : Arrives (f a) trace' c) : Arrives (p.bind f) (trace ++ trace') c := by
  induction hp with
  | done a => exact hf
  | call _ ih => exact .call (ih hf)
  | loop _ ih =>
    refine .loop ?_
    rw [← unroll_bind]
    exact ih hf

/-- One program after the other makes a call in the first, or in the second when the first has ended. -/
theorem arrives_bind_iff {p : Prog α} {f : α → Prog β} {c : Call} : Arrives (p.bind f) trace c ↔
    Arrives p trace c ∨ ∃ t a t', trace = t ++ t' ∧ Runs p t a ∧ Arrives (f a) t' c := by
  have stops : ∀ {a : α} {q : Prog β} {t : List Event}, (done a).bind f = q → Arrives q t c →
      Arrives (.done a) t c ∨ ∃ t₁ a' t₂, t = t₁ ++ t₂ ∧ Runs (.done a) t₁ a' ∧ Arrives (f a') t₂ c :=
    fun {a} _ t hq h => .inr ⟨[], a, t, rfl, .done a, by rwa [← hq] at h⟩
  constructor
  · generalize hq : p.bind f = q
    intro h
    induction h generalizing p with
    | here =>
      cases p with
      | done a => exact stops hq .here
      | call c next =>
        cases hq
        exact .inl .here
      | loop body s next => cases hq
    | call h ih =>
      cases p with
      | done a => exact stops hq (.call h)
      | call c next =>
        cases hq
        rcases ih stops rfl with hp | ⟨t, a, t', rfl, hp, hf⟩
        · exact .inl (.call hp)
        · exact .inr ⟨_, a, t', rfl, .call hp, hf⟩
      | loop body s next => cases hq
    | loop h ih =>
      cases p with
      | done a => exact stops hq (.loop h)
      | call c next => cases hq
      | loop body s next =>
        cases hq
        rcases ih stops unroll_bind with hp | ⟨t, a, t', rfl, hp, hf⟩
        · exact .inl (.loop hp)
        · exact .inr ⟨t, a, t', rfl, .loop hp, hf⟩
  · rintro (hp | ⟨t, a, t', rfl, hp, hf⟩)
    · exact hp.bind f
    · exact hp.bind_arrives hf

/-- Behind the calls of a trace the program goes on as another. -/
inductive Behind {α : Type} : Prog α → List Event → Prog α → Prop
  | here {p : Prog α} : Behind p [] p
  | call {c : Call} {next : c.Reply → Prog α} {r : c.Reply} {trace : List Event} {q : Prog α}
      (h : Behind (next r) trace q) : Behind (.call c next) (⟨c, r⟩ :: trace) q
  | loop {σ β : Type} {body : σ → Prog (σ ⊕ β)} {s : σ} {next : β → Prog α} {e : Event} {trace : List Event}
      {q : Prog α} (h : Behind (unroll body s next) (e :: trace) q) : Behind (.loop body s next) (e :: trace) q

theorem Behind.eq {p q : Prog α} (h : Behind p [] q) : q = p := by
  cases h
  rfl

/-- The last call of a trace is one that the program makes. -/
theorem Behind.arrives {p q : Prog α} {e : Event} (h : Behind p (trace ++ [e]) q) : Arrives p trace e.call := by
  generalize ht : trace ++ [e] = t at h
  induction h generalizing trace with
  | here => exact absurd ht (by simp)
  | call h ih =>
    cases trace with
    | nil =>
      cases ht
      exact .here
    | cons e' trace =>
      cases ht
      exact .call (ih rfl)
  | loop _ ih => exact .loop (ih ht)

/-- All calls of a program are of a kind. -/
def Makes (P : Call → Prop) (p : Prog α) : Prop := ∀ trace c, Arrives p trace c → P c

theorem Runs.makes {P : Call → Prop} {p : Prog α} {a : α} (h : Runs p trace a) (hp : Makes P p) :
    ∀ e ∈ trace, P e.call := by
  induction h with
  | done a => exact fun _ he => absurd he List.not_mem_nil
  | call _ ih => exact List.forall_mem_cons.mpr ⟨hp _ _ .here, ih fun _ _ hc => hp _ _ (.call hc)⟩
  | loop _ ih => exact ih fun _ _ hc => hp _ _ (.loop hc)

/-- A program that does not return has no trace. -/
theorem not_runs_never {p : Prog Empty} {a : α} : ¬ Runs (never p) trace a := by
  intro h
  obtain ⟨_, e, -⟩ := runs_bind_iff.mp h
  exact e.elim

namespace Makes
variable {P Q : Call → Prop} {p : Prog α}

theorem mono (h : Makes P p) (hPQ : ∀ c, P c → Q c) : Makes Q p := fun trace c hc => hPQ c (h trace c hc)

theorem pure (a : α) : Makes P (pure a : Prog α) := fun _ _ h => absurd h not_arrives_done

theorem call {c : Call} {next : c.Reply → Prog α} (hc : P c) (hnext : ∀ r, Makes P (next r)) :
    Makes P (.call c next) := by
  rintro _ _ (_ | h | _)
  · exact hc
  · exact hnext _ _ _ h

theorem bind {f : α → Prog β} (hp : Makes P p) (hf : ∀ a, Makes P (f a)) : Makes P (p >>= f) := fun trace c h => by
  rcases arrives_bind_iff.mp h with h | ⟨t, a, t', rfl, -, h⟩
  · exact hp trace c h
  · exact hf a t' c h

theorem next {c : Call} {next : c.Reply → Prog α} (h : Makes P (.call c next)) (r : c.Reply) : Makes P (next r) :=
  fun _ _ hc => h _ _ (.call hc)

theorem unroll {body : σ → Prog (σ ⊕ τ)} {s : σ} {next : τ → Prog α} (h : Makes P (.loop body s next)) :
    Makes P (Prog.unroll body s next) := fun _ _ hc => h _ _ (.loop hc)

end Makes

end JobShell.Prog
