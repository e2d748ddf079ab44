import JobShell.Proofs.Estate.System

/-! # What a launch has added to the estate

While a line is launched, the estate is what it could have become without the line, but for the children that the line
has forked and for the descriptors that it has open. So it is enough to look after these: when the children are
collected and the descriptors closed, nothing is left of the launch. -/

namespace JobShell.Estate
open Children (Ending Phase)

variable {reaper : Prop} {s s' s₀ : State} {mine : Set Pid} {d d' : Descriptors.Table} {pid : Pid}

/-! ### What happens without the interpreter -/

theorem Drift.own (h : Drift reaper s s') : s'.toOwn = s.toOwn := by
  cases h with
  | calms h =>
    obtain ⟨n, -, rfl⟩ := h
    rfl
  | _ => rfl

/-- No child appears by itself. -/
theorem Drift.childless (h : Drift reaper s s') (hp : s.children pid = none) : s'.children pid = none := by
  cases h with
  | @ends pid' e hp' =>
    have hne : pid ≠ pid' := by
      rintro rfl
      rw [hp] at hp'
      cases hp'
    simp [hne, hp]
  | calms h =>
    obtain ⟨n, -, rfl⟩ := h
    exact hp
  | reaps => simp [hp]
  | removes => exact hp

/-- Without a reaper, no child disappears by itself. -/
theorem Drift.there (h : Drift reaper s s') (hr : ¬ reaper) (hp : s.children pid ≠ none) : s'.children pid ≠ none := by
  cases h with
  | @ends pid' =>
    by_cases hpid : pid = pid' <;> simp [hpid]
    exact hp
  | calms h =>
    obtain ⟨n, -, rfl⟩ := h
    exact hp
  | reaps hr' => exact absurd hr' hr
  | removes _ hr' => exact absurd hr' hr

theorem Drift.table (h : Drift reaper s s') (hr : ¬ reaper) : s'.table = s.table := by
  cases h with
  | ends => rfl
  | calms h =>
    obtain ⟨n, -, rfl⟩ := h
    rfl
  | reaps hr' => exact absurd hr' hr
  | removes _ hr' => exact absurd hr' hr

/-- The reaper gives no ids. -/
theorem Drift.lastId (h : Drift reaper s s') : s'.table.lastId = s.table.lastId := by
  cases h with
  | calms h =>
    obtain ⟨n, -, rfl⟩ := h
    rfl
  | _ => rfl

section Drifts
variable (h : (world reaper).Drifts s s')
include h

theorem drifts_own : s'.toOwn = s.toOwn := by
  induction h with
  | refl => rfl
  | tail _ hd ih => exact (Drift.own hd).trans ih

theorem drifts_held : s'.held = s.held := congrArg Own.held (drifts_own h)

theorem drifts_childless (hp : s.children pid = none) : s'.children pid = none := by
  induction h with
  | refl => exact hp
  | tail _ hd ih => exact Drift.childless hd ih

theorem drifts_there (hr : ¬ reaper) (hp : s.children pid ≠ none) : s'.children pid ≠ none := by
  induction h with
  | refl => exact hp
  | tail _ hd ih => exact Drift.there hd hr ih

theorem drifts_table (hr : ¬ reaper) : s'.table = s.table := by
  induction h with
  | refl => rfl
  | tail _ hd ih => exact (Drift.table hd hr).trans ih

theorem drifts_lastId : s'.table.lastId = s.table.lastId := by
  induction h with
  | refl => rfl
  | tail _ hd ih => exact (Drift.lastId hd).trans ih

end Drifts

/-! ### The estate with the children and the descriptors of a launch -/

/-- The state could have been reached from `s₀` without the interpreter, but for the children of a launch, which are
`mine`, and for the descriptors, which are `d`. -/
structure Stands (reaper : Prop) (s₀ : State) (mine : Set Pid) (d : Descriptors.Table) (s : State) : Prop where
  own : s.toOwn = { s₀.toOwn with descriptors := d }
  pos : ∀ pid ∈ mine, 0 < pid
  /-- Without a reaper, the children stay until the interpreter collects them. -/
  there : ¬ reaper → ∀ pid ∈ mine, s.children pid ≠ none
  rest : ∃ s₁, (world reaper).Drifts s₀ s₁ ∧ s.table = s₁.table ∧ s.disturbances = s₁.disturbances ∧
    (∀ pid ∈ mine, s₁.children pid = none) ∧ ∀ pid ∉ mine, s.children pid = s₁.children pid

namespace Stands

theorem start (reaper : Prop) (s : State) : Stands reaper s ∅ s.descriptors s where
  own := rfl
  pos _ := False.elim
  there _ _ := False.elim
  rest := ⟨s, .refl, rfl, rfl, fun _ => False.elim, fun _ _ => rfl⟩

/-- Where nothing is left of a launch, the state could have been reached without it. -/
theorem drifts (h : Stands reaper s₀ ∅ s₀.descriptors s) : (world reaper).Drifts s₀ s := by
  obtain ⟨s₁, hs₁, htable, hdist, -, hchildren⟩ := h.rest
  have hown : s.toOwn = s₁.toOwn := h.own.trans (drifts_own hs₁).symm
  obtain rfl : s = s₁ := by
    obtain ⟨_, _, _, _⟩ := s
    obtain ⟨_, _, _, _⟩ := s₁
    obtain rfl : _ = _ := funext fun pid => hchildren pid (Set.notMem_empty pid)
    cases hown
    cases htable
    cases hdist
    rfl
  exact hs₁

theorem drift (h : Stands reaper s₀ mine d s) (hd : Drift reaper s s') : Stands reaper s₀ mine d s' where
  own := hd.own.trans h.own
  pos := h.pos
  there hr pid hpid := hd.there hr (h.there hr pid hpid)
  rest := by
    obtain ⟨s₁, hs₁, htable, hdist, hfree, hothers⟩ := h.rest
    have held : s.held = s₁.held := (congrArg Own.held h.own).trans (drifts_held hs₁).symm
    -- What happens to a child that is not of the launch happens without the launch, too.
    have hset : ∀ (pid : Pid) (phase : Option Phase), (s₁.children pid = s.children pid →
        Drift reaper s₁ (s₁.set pid phase)) → ∃ s₂, (world reaper).Drifts s₀ s₂ ∧ s.table = s₂.table ∧
          s.disturbances = s₂.disturbances ∧ (∀ q ∈ mine, s₂.children q = none) ∧
          ∀ q ∉ mine, (s.set pid phase).children q = s₂.children q := by
      intro pid phase hdrift
      by_cases hpid : pid ∈ mine
      · refine ⟨s₁, hs₁, htable, hdist, hfree, fun q hq => ?_⟩
        rw [State.set_children, if_neg (ne_of_mem_of_not_mem hpid hq).symm, hothers q hq]
      · refine ⟨s₁.set pid phase, hs₁.tail (hdrift (hothers pid hpid).symm), htable, hdist, fun q hq => ?_, fun q hq => ?_⟩
        · rw [State.set_children, if_neg (ne_of_mem_of_not_mem hq hpid), hfree q hq]
        · rw [State.set_children, State.set_children, hothers q hq]
    cases hd with
    | ends e hp => exact hset _ _ fun he => .ends e (he.trans hp)
    | reaps hr hp => exact hset _ _ fun he => .reaps hr (he.trans hp)
    | calms hc =>
      obtain ⟨n, hn, rfl⟩ := hc
      exact ⟨{ s₁ with disturbances := n }, hs₁.tail (.calms ⟨n, hdist ▸ hn, rfl⟩), htable, rfl, hfree, hothers⟩
    | removes pid hr hh =>
      refine ⟨{ s₁ with table := (s₁.table.remove pid).2 }, hs₁.tail (.removes pid hr (held ▸ hh)), ?_, hdist, hfree,
        hothers⟩
      rw [htable]

theorem drifts_stands (h : Stands reaper s₀ mine d s) (hd : (world reaper).Drifts s s') :
    Stands reaper s₀ mine d s' := by
  induction hd with
  | refl => exact h
  | tail _ hd ih => exact ih.drift hd

theorem redescribe (h : Stands reaper s₀ mine d s) (d' : Descriptors.Table) :
    Stands reaper s₀ mine d' { s with descriptors := d' } where
  own := by rw [h.own]
  pos := h.pos
  there := h.there
  rest := h.rest

/-- A new child is one of the launch. -/
theorem fork (h : Stands reaper s₀ mine d s) (hpos : 0 < pid) (hfree : s.children pid = none) :
    Stands reaper s₀ (insert pid mine) d (s.set pid (some .running)) where
  own := h.own
  pos := Set.forall_mem_insert.mpr ⟨hpos, h.pos⟩
  there hr q hq := by
    by_cases hpid : q = pid
    · simp [hpid]
    · rw [State.set_children, if_neg hpid]
      exact h.there hr q (hq.resolve_left hpid)
  rest := by
    obtain ⟨s₁, hs₁, htable, hdist, hgone, hothers⟩ := h.rest
    refine ⟨s₁, hs₁, htable, hdist, Set.forall_mem_insert.mpr ⟨?_, hgone⟩, fun q hq => ?_⟩
    · by_cases hpid : pid ∈ mine
      · exact hgone pid hpid
      · rw [← hothers pid hpid, hfree]
    · obtain ⟨hne, hq⟩ := not_or.mp hq
      rw [State.set_children, if_neg hne, hothers q hq]

/-- A child that is no longer there is no longer one of the launch. -/
theorem release (h : Stands reaper s₀ mine d s) (hgone : s.children pid = none) :
    Stands reaper s₀ (mine \ {pid}) d s where
  own := h.own
  pos q hq := h.pos q hq.1
  there hr q hq := h.there hr q hq.1
  rest := by
    obtain ⟨s₁, hs₁, htable, hdist, hfree, hothers⟩ := h.rest
    refine ⟨s₁, hs₁, htable, hdist, fun q hq => hfree q hq.1, fun q hq => ?_⟩
    by_cases hmine : q ∈ mine
    · obtain rfl : q = pid := not_not.mp fun hne => hq ⟨hmine, hne⟩
      rw [hgone, hfree q hmine]
    · exact hothers q hmine

/-- A child of the launch is collected. -/
theorem collect (h : Stands reaper s₀ mine d s) (hpid : pid ∈ mine) :
    Stands reaper s₀ (mine \ {pid}) d (s.set pid none) where
  own := h.own
  pos q hq := h.pos q hq.1
  there hr q hq := by
    have hne : q ≠ pid := hq.2
    rw [State.set_children, if_neg hne]
    exact h.there hr q hq.1
  rest := by
    obtain ⟨s₁, hs₁, htable, hdist, hfree, hothers⟩ := h.rest
    refine ⟨s₁, hs₁, htable, hdist, fun q hq => hfree q hq.1, fun q hq => ?_⟩
    by_cases he : q = pid
    · rw [State.set_children, if_pos he, he, hfree pid hpid]
    · rw [State.set_children, if_neg he]
      exact hothers q fun hmine => hq ⟨hmine, he⟩

end Stands

end JobShell.Estate
