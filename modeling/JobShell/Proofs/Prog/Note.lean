import JobShell.Proofs.Prog.Conclude

/-! # Notes of calls

Notes can be kept of the calls that are made and of their replies. Nobody reads them, so that every run is also a run
with notes. -/

namespace JobShell

variable {σ α ν : Type}

/-- The surroundings with notes of some calls. -/
def Surroundings.noting (W : Surroundings σ) (note : (c : Call) → c.Reply → Option ν) : Surroundings (σ × List ν) where
  Answer c k r k' := W.Answer c k.1 r k'.1 ∧ k'.2 = k.2 ++ (note c r).toList
  Drift k k' := W.Drift k.1 k'.1 ∧ k'.2 = k.2

namespace Surroundings
variable {W : Surroundings σ} {note : (c : Call) → c.Reply → Option ν} {k k' : σ × List ν}

theorem noting_drifts_iff : (W.noting note).Drifts k k' ↔ W.Drifts k.1 k'.1 ∧ k'.2 = k.2 := by
  constructor
  · intro h
    induction h with
    | refl => exact ⟨.refl, rfl⟩
    | tail _ hd ih => exact ⟨ih.1.tail hd.1, hd.2.trans ih.2⟩
  · obtain ⟨s, l⟩ := k
    obtain ⟨s', l'⟩ := k'
    rintro ⟨h, rfl⟩
    exact h.lift (·, l') fun _ _ hd => ⟨hd, rfl⟩

theorem noting_open {c : Call} (h : W.Open c k.1) : (W.noting note).Open c k := by
  obtain ⟨s₁, r, s₂, hs, ha⟩ := h
  exact ⟨(s₁, k.2), r, (s₂, _), noting_drifts_iff.mpr ⟨hs, rfl⟩, ha, rfl⟩

/-- What has to hold for a call, without looking at the notes in between. -/
theorem noting_pre {c : Call} {P : c.Reply → σ × List ν → Prop}
    (h : ∀ s, W.Drifts k.1 s → W.Open c s ∧
      ∀ r s', W.Answer c s r s' → ∃ s₀, W.Drifts s₀ s' ∧ P r (s₀, k.2 ++ (note c r).toList)) :
    (W.noting note).live.pre c P k := by
  rintro ⟨s, l⟩ hs
  obtain ⟨hs, rfl⟩ := noting_drifts_iff.mp hs
  refine ⟨noting_open (h s hs).1, ?_⟩
  rintro r ⟨s', l'⟩ ⟨ha, rfl⟩
  obtain ⟨s₀, hs₀, hp⟩ := (h s hs).2 r s' ha
  exact ⟨(s₀, _), noting_drifts_iff.mpr ⟨hs₀, rfl⟩, hp⟩

end Surroundings

/-- Of every run notes can be kept. -/
theorem Prog.Reaches.noting {W : Surroundings σ} (note : (c : Call) → c.Reply → Option ν) {x y : σ × Prog α}
    (h : Reaches W x y) (l : List ν) : ∃ new, Reaches (W.noting note) ((x.1, l), x.2) ((y.1, l ++ new), y.2) := by
  induction h with
  | refl => exact ⟨[], by rw [List.append_nil]⟩
  | tail _ hs ih =>
    obtain ⟨new, hr⟩ := ih
    cases hs with
    | drift hd => exact ⟨new, hr.tail (.drift ⟨hd, rfl⟩)⟩
    | @call _ _ c _ r ha => exact ⟨new ++ (note c r).toList, hr.tail (.call ⟨ha, (List.append_assoc ..).symm⟩)⟩
    | unroll => exact ⟨new, hr.tail .unroll⟩

theorem Prog.Reaches.of_noting {W : Surroundings σ} {note : (c : Call) → c.Reply → Option ν}
    {x y : (σ × List ν) × Prog α} (h : Reaches (W.noting note) x y) : Reaches W (x.1.1, x.2) (y.1.1, y.2) := by
  refine h.lift (fun x => (x.1.1, x.2)) ?_
  rintro _ _ (hd | ha | _)
  · exact .drift hd.1
  · exact .call ha.1
  · exact .unroll

end JobShell
