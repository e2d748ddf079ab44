import Mathlib.Data.List.Forall2

/-! # Readings one after the other

A list is read element by element, and the first failure ends the reading. It succeeds exactly if every element
can be read, and a failure is that of the first element that cannot. -/

namespace JobShell

theorem ok_bind {α β ε : Type} (x : α) (f : α → Except ε β) : (Except.ok x >>= f) = f x := rfl

theorem error_bind {α β ε : Type} (e : ε) (f : α → Except ε β) : (Except.error e >>= f) = .error e := rfl

theorem mapM_eq_ok_iff {α β ε : Type} {f : α → Except ε β} {xs : List α} {ys : List β} :
    xs.mapM f = .ok ys ↔ List.Forall₂ (fun x y => f x = .ok y) xs ys := by
  induction xs generalizing ys with
  | nil => cases ys <;> simp [pure, Except.pure]
  | cons x xs ih =>
    rw [List.mapM_cons]
    cases hx : f x with
    | error e => cases ys <;> simp [error_bind, hx]
    | ok y =>
      rw [ok_bind]
      cases hxs : xs.mapM f with
      | error e => cases ys <;> simp [← ih, hxs]
      | ok ys' => cases ys <;> simp [ok_bind, pure, Except.pure, ← ih, hxs, hx]

/-- What was read was read from an element. -/
theorem exists_of_mapM_ok {α β ε : Type} {f : α → Except ε β} {xs : List α} {ys : List β} (h : xs.mapM f = .ok ys)
    {y : β} (hy : y ∈ ys) : ∃ x ∈ xs, f x = .ok y := by
  induction mapM_eq_ok_iff.mp h with
  | nil => cases hy
  | @cons x y' xs ys hx hxs ih =>
    rcases List.mem_cons.mp hy with rfl | hy
    · exact ⟨x, List.mem_cons_self, hx⟩
    · obtain ⟨x', hx', he⟩ := ih (mapM_eq_ok_iff.mpr hxs) hy
      exact ⟨x', List.mem_cons_of_mem x hx', he⟩

/-- The failure of a list is that of an element behind elements that can be read. -/
theorem mapM_append_error {α β ε : Type} {f : α → Except ε β} {before : List α} {x : α} {e : ε}
    (hb : ∀ b ∈ before, ∃ y, f b = .ok y) (hx : f x = .error e) (after : List α) :
    (before ++ x :: after).mapM f = .error e := by
  induction before with
  | nil => rw [List.nil_append, List.mapM_cons, hx, error_bind]
  | cons b before ih =>
    obtain ⟨⟨y, hy⟩, hbs⟩ := List.forall_mem_cons.mp hb
    rw [List.cons_append, List.mapM_cons, hy, ok_bind, ih hbs, error_bind]

theorem exists_mapM_ok {α β ε : Type} {f : α → Except ε β} {xs : List α} (h : ∀ x ∈ xs, ∃ y, f x = .ok y) :
    ∃ ys, xs.mapM f = .ok ys := by
  induction xs with
  | nil => exact ⟨[], rfl⟩
  | cons x xs ih =>
    obtain ⟨⟨y, hy⟩, hxs⟩ := List.forall_mem_cons.mp h
    obtain ⟨ys, hys⟩ := ih hxs
    exact ⟨y :: ys, by rw [List.mapM_cons, hy, ok_bind, hys, ok_bind]; rfl⟩

theorem map_eq_ok_iff {α β ε : Type} {f : α → β} {x : Except ε α} {y : β} :
    x.map f = .ok y ↔ ∃ a, x = .ok a ∧ f a = y := by
  cases x <;> simp [Except.map]

theorem map_eq_error_iff {α β ε : Type} {f : α → β} {x : Except ε α} {e : ε} :
    x.map f = .error e ↔ x = .error e := by
  cases x <;> simp [Except.map]

theorem mapM_take_of_ok {α β ε : Type} {f : α → Except ε β} {xs : List α} {ys : List β} (h : xs.mapM f = .ok ys)
    (n : Nat) : (xs.take n).mapM f = .ok (ys.take n) :=
  mapM_eq_ok_iff.mpr (List.forall₂_take n (mapM_eq_ok_iff.mp h))

theorem mapM_take_of_error {α β ε : Type} {f : α → Except ε β} {xs : List α} {e : ε} (h : xs.mapM f = .error e)
    (n : Nat) : (xs.take n).mapM f = .error e ∨ ∃ ys, (xs.take n).mapM f = .ok ys := by
  rw [← List.take_append_drop n xs, List.mapM_append] at h
  cases ht : (xs.take n).mapM f with
  | ok ys => exact Or.inr ⟨ys, rfl⟩
  | error e' =>
    rw [ht, error_bind] at h
    cases h
    exact Or.inl rfl

theorem exists_mapM_ok_iff {α β ε : Type} {f : α → Except ε β} {xs : List α} :
    (∃ ys, xs.mapM f = .ok ys) ↔ ∀ x ∈ xs, ∃ y, f x = .ok y := by
  refine ⟨?_, exists_mapM_ok⟩
  rintro ⟨ys, h⟩
  have hread := mapM_eq_ok_iff.mp h
  clear h
  induction hread with
  | nil => simp
  | cons hx _ ih => exact List.forall_mem_cons.mpr ⟨⟨_, hx⟩, ih⟩

/-- Two lists that differ in their last element are read the same if the failure comes earlier, or if the two are. -/
theorem mapM_concat_eq_iff {α β ε : Type} {f : α → Except ε β} {before : List α} {x y : α} :
    (before ++ [x]).mapM f = (before ++ [y]).mapM f ↔ (∃ b ∈ before, ∃ e, f b = .error e) ∨ f x = f y := by
  induction before with
  | nil =>
    rw [List.nil_append, List.nil_append, List.mapM_cons, List.mapM_cons]
    cases f x <;> cases f y <;> simp [error_bind, ok_bind, pure, Except.pure]
  | cons b before ih =>
    rw [List.cons_append, List.cons_append, List.mapM_cons, List.mapM_cons]
    cases hb : f b with
    | error e => exact iff_of_true rfl (Or.inl ⟨b, List.mem_cons_self, e, hb⟩)
    | ok v =>
      have hbefore : (∃ c ∈ b :: before, ∃ e, f c = .error e) ↔ ∃ c ∈ before, ∃ e, f c = .error e := by
        simp [hb]
      rw [ok_bind, ok_bind, hbefore, ← ih]
      cases (before ++ [x]).mapM f <;> cases (before ++ [y]).mapM f <;> simp [error_bind, ok_bind, pure, Except.pure]

theorem mapM_eq_mapM_of_ok {α β γ ε : Type} {f : α → Except ε β} {g : α → Except ε γ} {k : β → Except ε γ}
    (hfg : ∀ x y, f x = .ok y → g x = k y) {xs : List α} {ys : List β} (h : xs.mapM f = .ok ys) :
    xs.mapM g = ys.mapM k := by
  induction mapM_eq_ok_iff.mp h with
  | nil => rfl
  | cons hx hxs ih => rw [List.mapM_cons, List.mapM_cons, hfg _ _ hx, ih (mapM_eq_ok_iff.mpr hxs)]

end JobShell
