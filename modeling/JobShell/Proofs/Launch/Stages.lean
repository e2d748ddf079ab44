import JobShell.Launch.Spawn
import JobShell.Proofs.Prog.Contract

/-! # Forking the stages one by one

What holds of the children that are there already holds of all of them in the end, if the fork of one stage keeps it.
The calls in between, which make pipes and close their ends, are of no account to most contracts. -/

namespace JobShell

universe u

/-- A call that may be made at any time and leaves what is known as it is. -/
def Contract.Ignores {κ : Type u} (K : Contract κ) (c : Call) : Prop :=
  ∀ {P : c.Reply → κ → Prop} {k : κ}, (∀ r, P r k) → K.pre c P k

namespace Launch
variable {κ : Type u} {K : Contract κ} {k : κ}

theorem ensures_dropHeld_ignored (hclose : ∀ d, K.Ignores (.close d)) (held : Option Descriptor) :
    (dropHeld held).Ensures K (fun _ k' => k' = k) k := by
  cases held with
  | none => exact rfl
  | some d => exact hclose d fun _ => rfl

theorem ensures_defaultSignals_ignored (h : ∀ s, K.Ignores (.defaultSignal s)) (signals : List Signal) :
    (signals.forM fun s => Prog.perform (.defaultSignal s)).Ensures K (fun _ k' => k' = k) k := by
  induction signals with
  | nil => exact Prog.ensures_pure rfl
  | cons s signals ih => exact Prog.ensures_perform (h s fun _ => ih)

/-- What a child that gives up has to keep is kept by each write of its message, up to the exit. -/
theorem ensures_die_of (I : κ → Prop) {what : Bytes} {reason : Text} {code : Int} (hI : I k)
    (hwrite : ∀ bytes k, I k → K.pre (.write Child.standardError bytes) (fun _ k' => I k') k)
    (hexit : ∀ k, I k → K.pre (.exit code) (fun _ _ => True) k) :
    (Child.die what reason code).Ensures K (fun _ _ => True) k := by
  have hparts : ∀ parts : List Bytes, ∀ k, I k → (parts.forM fun part => do
      let _ ← Prog.perform (.write Child.standardError part)).Ensures K (fun _ k' => I k') k := by
    intro parts
    induction parts with
    | nil => exact fun k hk => Prog.ensures_pure hk
    | cons part parts ih => exact fun k hk => Prog.ensures_perform (K.mono (fun _ k' hk' => ih k' hk') (hwrite part k hk))
  exact Prog.ensures_bind ((hparts _ k hI).mono fun _ k' hk' => K.mono (fun e _ _ => e.elim) (hexit k' hk'))

/-- The rule for the recursion over the stages. The invariant is about the children so far and about the group that the
next one is to join. -/
theorem ensures_spawnStages_of_invariant (I : List Pid → Option Pid → κ → Prop) (hpipe : K.Ignores .pipe)
    (hclose : ∀ d, K.Ignores (.close d))
    (hstart : ∀ {pids : List Pid} {w : Wiring} {k : κ} (i : Invocation), I pids w.group k →
      (start i w).Ensures K (fun r k' => match r with
        | .ok pid => I (pids ++ [pid]) (groupAfter w.group pid) k'
        | .error _ => I pids w.group k') k)
    {pids : List Pid} {group : Option Pid} {held : Option Descriptor} {stages : List Invocation}
    (h : I pids group k) :
    (spawnStages group held stages).Ensures K (fun r k' => (∃ group, I (pids ++ r.1) group k') ∧
      (r.2 = none ∧ r.1.length = stages.length ∨
        (∃ e, r.2 = some (.pipe e) ∨ r.2 = some (.fork e)) ∧ r.1.length < stages.length)) k := by
  induction stages generalizing pids group held k with
  | nil => exact Prog.ensures_pure ⟨⟨group, by rwa [List.append_nil]⟩, .inl ⟨rfl, rfl⟩⟩
  | cons stage rest ih =>
    have drops : ∀ (d : Option Descriptor) (k : κ), (dropHeld d).Ensures K (fun _ k' => k' = k) k := fun d k =>
      ensures_dropHeld_ignored hclose d
    -- The last stage has no pipe behind it.
    cases rest with
    | nil =>
      refine Prog.ensures_bind ((hstart stage (w := ⟨held, none, none, group⟩) h).mono ?_)
      rintro (e | pid) k₁ h₁
      · refine Prog.ensures_bind ((drops held k₁).mono ?_)
        rintro _ _ rfl
        exact Prog.ensures_pure ⟨⟨group, by rwa [List.append_nil]⟩, .inr ⟨⟨e, .inr rfl⟩, Nat.zero_lt_one⟩⟩
      · refine Prog.ensures_bind ((drops held k₁).mono ?_)
        rintro _ _ rfl
        exact Prog.ensures_pure ⟨⟨_, h₁⟩, .inl ⟨rfl, rfl⟩⟩
    | cons next rest =>
      refine Prog.ensures_perform (hpipe fun r => ?_)
      cases r with
      | error e =>
        refine Prog.ensures_bind ((drops held k).mono ?_)
        rintro _ _ rfl
        exact Prog.ensures_pure ⟨⟨group, by rwa [List.append_nil]⟩, .inr ⟨⟨e, .inl rfl⟩, Nat.succ_pos _⟩⟩
      | ok ends =>
        refine Prog.ensures_bind ((hstart stage (w := ⟨held, some ends.2, some ends.1, group⟩) h).mono ?_)
        rintro (e | pid) k₁ h₁
        · refine Prog.ensures_bind ((drops (some ends.1) k₁).mono ?_)
          rintro _ _ rfl
          refine Prog.ensures_bind ((drops (some ends.2) _).mono ?_)
          rintro _ _ rfl
          refine Prog.ensures_bind ((drops held _).mono ?_)
          rintro _ _ rfl
          exact Prog.ensures_pure ⟨⟨group, by rwa [List.append_nil]⟩, .inr ⟨⟨e, .inr rfl⟩, Nat.succ_pos _⟩⟩
        · refine Prog.ensures_bind ((drops held k₁).mono ?_)
          rintro _ _ rfl
          refine Prog.ensures_bind ((drops (some ends.2) _).mono ?_)
          rintro _ _ rfl
          refine Prog.ensures_bind ((ih h₁).mono ?_)
          rintro ⟨later, failure⟩ _ ⟨⟨group', h'⟩, hend⟩
          refine Prog.ensures_pure ⟨⟨group', by rwa [List.append_assoc] at h'⟩, ?_⟩
          exact hend.imp (fun h => ⟨h.1, congrArg (· + 1) h.2⟩) fun h => ⟨h.1, Nat.succ_lt_succ h.2⟩

end Launch

end JobShell
