import JobShell.Proofs.Estate.Spawning
import Mathlib.Data.Finset.Card

/-! # The descriptors that a launch needs

However many stages a launch has, it never holds more than three descriptors beside those that were open before. So
three free descriptors are enough for any launch and two for a launch of two stages, and one stage needs none. -/

namespace JobShell

namespace Descriptors.Table
variable {t t' : Table} {held : Finset Descriptor} {Usable : Descriptor → Prop} {reader writer d : Descriptor}

/-- The second table is the first with some descriptors opened in addition. -/
structure Opened (Usable : Descriptor → Prop) (t : Table) (held : Finset Descriptor) (t' : Table) : Prop where
  fresh : ∀ d ∈ held, Usable d ∧ t d = .none ∧ t' d ≠ .none
  rest : ∀ d ∉ held, t' d = t d

theorem Opened.refl (Usable : Descriptor → Prop) (t : Table) : Opened Usable t ∅ t where
  fresh _ hd := absurd hd (Finset.notMem_empty _)
  rest _ _ := rfl

theorem Opened.notMem (h : Opened Usable t held t') (hd : t' d = .none) : d ∉ held := fun hmem =>
  (h.fresh d hmem).2.2 hd

theorem Opened.set (h : Opened Usable t held t') (hu : Usable d) (hd : t' d = .none) (e : Entry) :
    Opened Usable t (insert d held) (t'.set d e) where
  fresh d' hd' := by
    by_cases he : d' = d
    · subst he
      exact ⟨hu, (h.rest d' (h.notMem hd)).symm.trans hd, by simp [Table.set]⟩
    · obtain ⟨hu', hnone, hopen⟩ := h.fresh d' ((Finset.mem_insert.mp hd').resolve_left he)
      exact ⟨hu', hnone, by rwa [Table.set, Function.update_of_ne he]⟩
  rest d' hd' := by
    obtain ⟨hne, hnot⟩ := not_or.mp (Finset.mem_insert.not.mp hd')
    rw [Table.set, Function.update_of_ne hne, h.rest d' hnot]

theorem Opened.clear (h : Opened Usable t held t') (hd : d ∈ held) : Opened Usable t (held.erase d) (t'.clear d) where
  fresh d' hd' := by
    obtain ⟨hne, hmem⟩ := Finset.mem_erase.mp hd'
    rw [Table.clear, Function.update_of_ne hne]
    exact h.fresh d' hmem
  rest d' hd' := by
    by_cases he : d' = d
    · rw [he, Table.clear, Function.update_self, (h.fresh d hd).2.1]
    · rw [Table.clear, Function.update_of_ne he, h.rest d' fun hmem => hd' (Finset.mem_erase.mpr ⟨he, hmem⟩)]

/-- The descriptors that can still be opened. -/
def free (t : Table) (limit : Nat) : Finset Descriptor := (Finset.range limit).filter fun d => t d = .none

@[simp] theorem mem_free {limit : Nat} : d ∈ t.free limit ↔ d < limit ∧ t d = .none := by simp [free]

/-- What is held is no longer free. -/
theorem Opened.card_free {limit : Nat} (h : Opened (· < limit) t held t') :
    (t'.free limit).card + held.card = (t.free limit).card := by
  have hdisjoint : Disjoint (t'.free limit) held := Finset.disjoint_left.mpr fun d hfree =>
    h.notMem (mem_free.mp hfree).2
  have hunion : t'.free limit ∪ held = t.free limit := by
    ext d
    rw [Finset.mem_union, mem_free, mem_free]
    by_cases hd : d ∈ held
    · obtain ⟨hlimit, hnone, -⟩ := h.fresh d hd
      simp [hd, hlimit, hnone]
    · simp [hd, h.rest d hd]
  rw [← hunion, Finset.card_union_of_disjoint hdisjoint]

end Descriptors.Table

namespace Estate
open Descriptors (Table)

variable {reaper : Prop} {s s' : State} {held : Finset Descriptor} {notes : List Noted}

/-! ### What the interpreter holds -/

/-- A note of a pipe: it was made, or refused with an error. -/
def Noted.pipe? : Noted → Option (Option Errno)
  | .pipe => some none
  | .refused (.pipe e) => some (some e)
  | _ => none

/-- Which descriptors there are to be had, and whether a pipe is made or refused while so many of them are held. -/
structure Supply where
  Usable : Descriptor → Prop
  Makes : Nat → Prop
  Refuses : Nat → Errno → Prop

namespace Supply

/-- Pipes are made and refused at will. -/
def any : Supply := ⟨fun _ => True, fun _ => True, fun _ _ => True⟩

/-- There is a limit, and `f` descriptors are to be had below it. -/
def below (limit f : Nat) : Supply := ⟨(· < limit), fun n => n + 2 ≤ f, fun n e => e = .tooManyOpen ∧ f < n + 2⟩

/-- What can be replied while so many descriptors are held. -/
def Allows (S : Supply) (n : Nat) : (c : Call) → c.Reply → Prop
  | .pipe, .ok (reader, writer) => S.Usable reader ∧ S.Usable writer ∧ S.Makes n
  | .pipe, .error e => S.Refuses n e
  | _, _ => True

/-- The pipes of a launch that holds so many descriptors at the first of them, and one at each of the others: those
that are made, up to one that is refused. -/
def Grants (S : Supply) : Nat → List (Option Errno) → Prop
  | _, [] => True
  | n, none :: later => S.Makes n ∧ S.Grants 1 later
  | n, some e :: later => S.Refuses n e ∧ S.Grants n later

end Supply

/-- What a launch may do with descriptors: it makes a pipe only when it holds one at most, and closes only what it
holds. -/
def Handles (S : Supply) : (c : Call) → (c.Reply → Finset Descriptor × List Noted → Prop) →
    Finset Descriptor × List Noted → Prop
  | .pipe, P, k => k.1.card ≤ 1 ∧ (∀ e, S.Refuses k.1.card e → P (.error e) (k.1, k.2 ++ [.refused (.pipe e)])) ∧
      ∀ reader writer, S.Makes k.1.card → reader ≠ writer → reader ∉ k.1 → writer ∉ k.1 →
        P (.ok (reader, writer)) (insert writer (insert reader k.1), k.2 ++ [.pipe])
  | .close d, P, k => d ∈ k.1 ∧ ∀ r, P r (k.1.erase d, k.2)
  | .fork, P, k => (∀ pid, P (.ok (.parent pid)) (k.1, k.2 ++ [.forked pid])) ∧
      ∀ e, P (.error e) (k.1, k.2 ++ [.refused (.fork e)])
  | .setGroup _ _, P, k => ∀ r, P r k
  | .kill pid n, P, k => ∀ r, P r (k.1, k.2 ++ [.killed pid n])
  | .wait pid true, P, k => ∀ r, P r (k.1, k.2 ++ (note (.wait pid true) r).toList)
  | _, _, _ => False

def handling (S : Supply) : Contract (Finset Descriptor × List Noted) where
  pre := Handles S
  mono {c P Q k} hPQ h := by
    cases c with
    | pipe => exact ⟨h.1, fun e he => hPQ _ _ (h.2.1 e he), fun a b hm hne ha hb => hPQ _ _ (h.2.2 a b hm hne ha hb)⟩
    | close d => exact ⟨h.1, fun r => hPQ _ _ (h.2 r)⟩
    | fork => exact ⟨fun pid => hPQ _ _ (h.1 pid), fun e => hPQ _ _ (h.2 e)⟩
    | wait pid block =>
      cases block with
      | true => exact fun r => hPQ _ _ (h r)
      | false => exact h
    | setGroup | kill => exact fun r => hPQ _ _ (h r)
    | _ => exact h

/-- A wait leaves the descriptors as they are. -/
theorem Waited.own {target : Pid} {r : Except Errno Report} (h : Waited target s r s') : s'.toOwn = s.toOwn := by
  have calms : s.Calms s' → s'.toOwn = s.toOwn := by
    rintro ⟨n, -, rfl⟩
    rfl
  cases r with
  | error e =>
    rcases h with ⟨-, hc⟩ | ⟨-, -, rfl⟩
    · exact calms hc
    · rfl
  | ok report =>
    rcases h with ⟨_, _, -, -, -, rfl⟩ | ⟨-, hc⟩
    · rfl
    · exact calms hc

/-- Behind each call, at most three descriptors are held. -/
theorem Handles.answered {S : Supply} {c : Call} {P : c.Reply → Finset Descriptor × List Noted → Prop} {r : c.Reply}
    {t : Table} (h : Handles S c P (held, notes)) (ho : t.Opened S.Usable held s.descriptors) (hcard : held.card ≤ 3)
    (ha : Answer c s r s') (hs : S.Allows held.card c r) : ∃ held', held'.card ≤ 3 ∧
      t.Opened S.Usable held' s'.descriptors ∧ P r (held', notes ++ (note c r).toList) := by
  have same : s'.toOwn = s.toOwn → t.Opened S.Usable held s'.descriptors := fun hown =>
    (congrArg Own.descriptors hown).symm ▸ ho
  cases c with
  | pipe =>
    obtain ⟨hfew, hrefused, hmade⟩ := h
    rcases r with e | ⟨reader, writer⟩
    · obtain rfl : s' = s := ha
      exact ⟨held, hcard, ho, hrefused e hs⟩
    · obtain ⟨hne, hr, hw, n, rfl⟩ := ha
      obtain ⟨hur, huw, hmakes⟩ := hs
      refine ⟨_, ?_, (ho.set hur hr _).set huw ?_ _, hmade reader writer hmakes hne (ho.notMem hr) (ho.notMem hw)⟩
      · have hfew : held.card ≤ 1 := hfew
        have := Finset.card_insert_le writer (insert reader held)
        have := Finset.card_insert_le reader held
        omega
      · rw [Table.set, Function.update_of_ne hne.symm, hw]
  | close d =>
    obtain rfl : s' = _ := ha
    exact ⟨_, Finset.card_erase_le.trans hcard, ho.clear h.1, (List.append_nil notes).symm ▸ h.2 r⟩
  | fork =>
    rcases r with e | _ | pid
    · obtain rfl : s' = s := ha
      exact ⟨held, hcard, ho, h.2 e⟩
    · exact ha.elim
    · obtain ⟨-, -, rfl⟩ := ha
      exact ⟨held, hcard, ho, h.1 pid⟩
  | setGroup pid g =>
    obtain rfl : s' = s := ha trivial
    exact ⟨held, hcard, ho, (List.append_nil notes).symm ▸ h r⟩
  | kill pid n =>
    obtain rfl : s' = s := ha trivial
    exact ⟨held, hcard, ho, h r⟩
  | wait pid block =>
    cases block with
    | true => exact ⟨held, hcard, same (Waited.own ha), h r⟩
    | false => exact h.elim
  | _ => exact h.elim

/-- At every moment of a run, the descriptors are those from before and at most three held ones. -/
theorem opened_of_reaches {W : Surroundings State} {S : Supply} {α : Type} {p q : Prog α} {notes' : List Noted}
    {Q : α → Finset Descriptor × List Noted → Prop} (hdrift : ∀ {s s'}, W.Drift s s' → Drift reaper s s')
    (hanswer : ∀ {held c s₁ r s₂}, s.descriptors.Opened S.Usable held s₁.descriptors → W.Answer c s₁ r s₂ →
      Answer c s₁ r s₂ ∧ S.Allows held.card c r)
    (hp : p.Ensures (handling S) Q (∅, notes))
    (h : Prog.Reaches (W.noting note) ((s, notes), p) ((s', notes'), q)) : ∃ held, held.card ≤ 3 ∧
      s.descriptors.Opened S.Usable held s'.descriptors ∧ q.Ensures (handling S) Q (held, notes') := by
  suffices hall : ∀ y, Prog.Reaches (W.noting note) ((s, notes), p) y → ∃ held, held.card ≤ 3 ∧
      s.descriptors.Opened S.Usable held y.1.1.descriptors ∧ y.2.Ensures (handling S) Q (held, y.1.2) from hall _ h
  intro y hy
  induction hy with
  | refl => exact ⟨∅, Nat.zero_le _, .refl _ _, hp⟩
  | @tail y z _ hs ih =>
    obtain ⟨held, hcard, ho, hq⟩ := ih
    cases hs with
    | drift hd => exact ⟨held, hcard, (congrArg Own.descriptors (Drift.own (hdrift hd.1))).symm ▸ ho, hd.2.symm ▸ hq⟩
    | call ha =>
      obtain ⟨ha, hnotes⟩ := ha
      obtain ⟨ha, hs⟩ := hanswer ho ha
      rw [hnotes]
      exact Handles.answered hq ho hcard ha hs
    | unroll => exact ⟨held, hcard, ho, hq.unroll⟩

/-! ### What a launch holds -/

section Launch
variable {S : Supply} {k : Finset Descriptor × List Noted}

/-- The descriptors of a stage's input. -/
def heldFor : Option Descriptor → Finset Descriptor
  | none => ∅
  | some d => {d}

theorem ensures_drop_held {d : Descriptor} (hd : d ∈ k.1) : (Launch.drop d).Ensures (handling S)
    (fun _ k' => k' = (k.1.erase d, k.2)) k :=
  Prog.ensures_perform ⟨hd, fun _ => rfl⟩

theorem ensures_dropHeld_held {input : Option Descriptor} (hd : heldFor input ⊆ k.1) :
    (Launch.dropHeld input).Ensures (handling S) (fun _ k' => k' = (k.1 \ heldFor input, k.2)) k := by
  cases input with
  | none => exact Prog.ensures_pure (by simp [heldFor])
  | some d =>
    refine (ensures_drop_held (Finset.singleton_subset_iff.mp hd)).mono ?_
    rintro _ _ rfl
    rw [heldFor, Finset.sdiff_singleton_eq_erase]

theorem ensures_start_held (i : Invocation) (w : Wiring) : (Launch.start i w).Ensures (handling S)
    (fun r k' => match r with
      | .ok pid => k' = (k.1, k.2 ++ [.forked pid])
      | .error e => k' = (k.1, k.2 ++ [.refused (.fork e)])) k :=
  Launch.ensures_start_of (fun _ _ _ _ h => h) ⟨fun _ => rfl, fun _ => rfl⟩

/-- Both ends of a pipe are closed, or the end that the next stage reads from is kept. -/
theorem held_ends {reader writer : Descriptor} (hne : reader ≠ writer) (hr : reader ∉ held) :
    ((insert writer (insert reader held)).erase reader).erase writer \ held = ∅ ∧
      (insert writer (insert reader held) \ held).erase writer = heldFor (some reader) := by
  constructor <;> ext d <;> simp only [heldFor, Finset.mem_sdiff, Finset.mem_erase, Finset.mem_insert,
    Finset.notMem_empty, Finset.mem_singleton] <;> grind

/-- Between two stages, the launch holds the input of the second, and nothing else. -/
theorem ensures_spawnStages_held {group : Option Pid} (input : Option Descriptor) {stages : List Invocation}
    (hinput : stages = [] → input = none) :
    (Launch.spawnStages group input stages).Ensures (handling S) (fun _ k' => ∃ made,
      k' = (∅, notes ++ made) ∧ S.Grants (heldFor input).card (made.filterMap Noted.pipe?)) (heldFor input, notes) := by
  induction stages generalizing group input notes with
  | nil =>
    obtain rfl := hinput rfl
    exact Prog.ensures_pure ⟨[], by simp [heldFor], trivial⟩
  | cons stage rest ih =>
    have hall : heldFor input \ heldFor input = ∅ := Finset.sdiff_self _
    -- The last stage has no pipe behind it.
    cases rest with
    | nil =>
      refine Prog.ensures_bind ((ensures_start_held stage _).mono ?_)
      rintro (e | pid) _ rfl
      · refine Prog.ensures_bind ((ensures_dropHeld_held subset_rfl).mono ?_)
        rintro _ _ rfl
        exact Prog.ensures_pure ⟨[.refused (.fork e)], by rw [hall], trivial⟩
      · refine Prog.ensures_bind ((ensures_dropHeld_held subset_rfl).mono ?_)
        rintro _ _ rfl
        exact Prog.ensures_pure ⟨[.forked pid], by rw [hall], trivial⟩
    | cons next rest =>
      have hfew : (heldFor input).card ≤ 1 := by cases input <;> simp [heldFor]
      refine Prog.ensures_perform ⟨hfew, fun e he => ?_, fun reader writer hmakes hne hr hw => ?_⟩
      · refine Prog.ensures_bind ((ensures_dropHeld_held subset_rfl).mono ?_)
        rintro _ _ rfl
        exact Prog.ensures_pure ⟨[.refused (.pipe e)], by rw [hall], he, trivial⟩
      · obtain ⟨habandoned, hkept⟩ := held_ends hne hr
        have hinput : heldFor input ⊆ insert writer (insert reader (heldFor input)) :=
          (Finset.subset_insert _ _).trans (Finset.subset_insert _ _)
        refine Prog.ensures_bind ((ensures_start_held stage _).mono ?_)
        rintro (e | pid) _ rfl
        · refine Prog.ensures_bind ((ensures_drop_held (by simp)).mono ?_)
          rintro _ _ rfl
          refine Prog.ensures_bind ((ensures_drop_held (by simp [hne.symm])).mono ?_)
          rintro _ _ rfl
          refine Prog.ensures_bind ((ensures_dropHeld_held ?_).mono ?_)
          · exact Finset.subset_erase.mpr ⟨Finset.subset_erase.mpr ⟨hinput, hr⟩, hw⟩
          rintro _ _ rfl
          refine Prog.ensures_pure ⟨[.pipe, .refused (.fork e)], ?_, hmakes, trivial⟩
          rw [habandoned, List.append_assoc]
          rfl
        · refine Prog.ensures_bind ((ensures_dropHeld_held hinput).mono ?_)
          rintro _ _ rfl
          refine Prog.ensures_bind ((ensures_drop_held (by simp [hw])).mono ?_)
          rintro _ _ rfl
          rw [hkept]
          refine Prog.ensures_bind ((ih (some reader) (by simp)).mono ?_)
          rintro _ _ ⟨made, rfl, hmade⟩
          refine Prog.ensures_pure ⟨.pipe :: .forked pid :: made, ?_, hmakes, hmade⟩
          rw [List.append_assoc, List.append_assoc]
          rfl

/-- The same is held, and no pipe was asked for. -/
def Spares (k k' : Finset Descriptor × List Noted) : Prop :=
  ∃ new, k' = (k.1, k.2 ++ new) ∧ new.filterMap Noted.pipe? = []

theorem Spares.note {k' : Finset Descriptor × List Noted} (h : Spares k k') {later : List Noted}
    (hlater : later.filterMap Noted.pipe? = []) : Spares k (k'.1, k'.2 ++ later) := by
  obtain ⟨new, rfl, hnew⟩ := h
  exact ⟨new ++ later, by rw [List.append_assoc], by rw [List.filterMap_append, hnew, hlater]; rfl⟩

theorem pipes_waited (pid : Pid) (r : Except Errno Report) :
    (note (.wait pid true) r).toList.filterMap Noted.pipe? = [] := by
  rcases r with e | (_ | ⟨p, code⟩ | ⟨p, signal, core⟩ | ⟨p, signal⟩ | p)
  case ok.signaled =>
    simp only [note]
    split <;> rfl
  all_goals rfl

/-- Nothing that is done to the processes of a failed launch asks for a pipe. -/
theorem ensures_abandon_held (pids : List Pid) :
    (Launch.abandon pids).Ensures (handling S) (fun _ => Spares k) k := by
  induction pids generalizing k with
  | nil => exact Prog.ensures_pure ⟨[], by rw [List.append_nil], rfl⟩
  | cons pid pids ih =>
    have hkilled : Spares k (k.1, k.2 ++ [.killed pid Signal.kill.number]) := ⟨_, rfl, rfl⟩
    refine Prog.ensures_perform fun _ => Prog.ensures_bind ((ensures_waitFor_of (Spares k) hkilled ?_ :
      (waitFor pid).Ensures (handling S) (fun _ => Spares k) _).mono ?_)
    · intro k' hk' r
      have hwaited := hk'.note (pipes_waited pid r)
      cases waited? pid r <;> exact hwaited
    · intro _ k₁ hk₁
      refine ih.mono ?_
      rintro _ _ ⟨later, rfl, hlater⟩
      exact hk₁.note hlater

theorem ensures_spawn_held (grouped : Bool) (stages : List Invocation) : (Launch.spawn grouped stages).Ensures
    (handling S) (fun _ k' => ∃ new, k' = (∅, notes ++ new) ∧ S.Grants 0 (new.filterMap Noted.pipe?)) (∅, notes) := by
  refine Prog.ensures_bind ((ensures_spawnStages_held none fun _ => rfl).mono ?_)
  rintro ⟨pids, _ | f⟩ _ ⟨made, rfl, hmade⟩
  · exact Prog.ensures_pure ⟨made, rfl, hmade⟩
  · refine Prog.ensures_bind ((ensures_abandon_held pids).mono ?_)
    rintro _ _ ⟨new, rfl, hnew⟩
    refine Prog.ensures_pure ⟨made ++ new, by rw [List.append_assoc], ?_⟩
    rwa [List.filterMap_append, hnew, List.append_nil]

end Launch

/-! ### Descriptors below a limit -/

/-- Pipes have their ends below a limit, and are refused only if not enough descriptors are free there. -/
def Rationed (limit : Nat) : (c : Call) → State → c.Reply → Prop
  | .pipe, _, .ok (reader, writer) => reader < limit ∧ writer < limit
  | .pipe, s, .error e => e = .tooManyOpen ∧ (s.descriptors.free limit).card < 2
  | _, _, _ => True

/-- The interpreter with a limit to its descriptors. -/
def rationed (limit : Nat) (reaper : Prop) : Surroundings State :=
  ⟨fun c s r s' => Answer c s r s' ∧ Rationed limit c s r, Drift reaper⟩

/-- What is held is missing from what was free. -/
theorem Rationed.allows {limit : Nat} {t : Table} {c : Call} {r : c.Reply}
    (ho : t.Opened (· < limit) held s.descriptors) (ha : Answer c s r s') (hr : Rationed limit c s r) :
    (Supply.below limit (t.free limit).card).Allows held.card c r := by
  have hfree := ho.card_free
  cases c with
  | pipe =>
    rcases r with e | ⟨reader, writer⟩
    · obtain ⟨he, hfew⟩ := hr
      exact ⟨he, by omega⟩
    · obtain ⟨hne, hreader, hwriter, -⟩ := ha
      refine ⟨hr.1, hr.2, show held.card + 2 ≤ _ from ?_⟩
      have htwo : 1 < (s.descriptors.free limit).card := Finset.one_lt_card.mpr
        ⟨reader, Table.mem_free.mpr ⟨hr.1, hreader⟩, writer, Table.mem_free.mpr ⟨hr.2, hwriter⟩, hne⟩
      omega
  | _ => trivial

/-- A pipe gets a reply at any time: either there are two free descriptors, or it is refused. -/
theorem open_rationed {limit : Nat} {c : Call} {k : State × List Noted} (h : (noted reaper).Open c k) :
    ((rationed limit reaper).noting note).Open c k := by
  cases c with
  | pipe =>
    refine Surroundings.noting_open ?_
    by_cases hfew : (k.1.descriptors.free limit).card < 2
    · exact ⟨k.1, .error .tooManyOpen, k.1, .refl, rfl, rfl, hfew⟩
    · obtain ⟨reader, hr, writer, hw, hne⟩ := Finset.one_lt_card.mp (Nat.le_of_not_lt hfew)
      obtain ⟨hr, hreader⟩ := Table.mem_free.mp hr
      obtain ⟨hw, hwriter⟩ := Table.mem_free.mp hw
      exact ⟨k.1, .ok (reader, writer), _, .refl, ⟨hne, hreader, hwriter, 0, rfl⟩, hr, hw⟩
  | _ =>
    obtain ⟨k₁, r, k₂, hk, ha, hn⟩ := h
    exact ⟨k₁, r, k₂, hk, ⟨ha, trivial⟩, hn⟩

/-! ### What is granted, and what comes of it -/

theorem Abandoning.forked {pids : List Pid} (h : Abandoning reaper pids notes) :
    notes.filterMap Noted.forked? = [] := by
  induction h with
  | nil => rfl
  | collected _ _ _ ih => exact ih
  | lost _ _ _ ih => exact ih

theorem Abandoning.pipes {pids : List Pid} (h : Abandoning reaper pids notes) :
    notes.filterMap Noted.pipe? = [] := by
  induction h with
  | nil => rfl
  | collected _ _ _ ih => exact ih
  | lost _ _ _ ih => exact ih

theorem Spawning.not_refused {n : Nat} {made : List Noted} {pids : List Pid} (h : Spawning n made pids none)
    (f : Failure) : .refused f ∉ made := by
  generalize hnone : (none : Option Failure) = failure at h
  induction h with
  | next _ _ ih => simpa using ih hnone
  | nothing | last => simp
  | _ => cases hnone

/-- With one descriptor held, either every pipe is granted or none. -/
theorem Spawning.supplied {limit f n : Nat} {made : List Noted} {pids : List Pid} {failure : Option Failure}
    (h : Spawning n made pids failure) (hmade : (Supply.below limit f).Grants 1 (made.filterMap Noted.pipe?))
    (hforks : ∀ e, .refused (.fork e) ∉ made) :
    failure = none ∧ (2 ≤ n → 3 ≤ f) ∨ failure = some (.pipe .tooManyOpen) ∧ pids = [] ∧ 2 ≤ n ∧ f < 3 := by
  induction h with
  | nothing | last => exact .inl ⟨rfl, by omega⟩
  | lastRefused e => exact absurd List.mem_cons_self (hforks e)
  | pipeRefused n e =>
    obtain ⟨⟨rfl, hf⟩, -⟩ := hmade
    exact .inr ⟨rfl, rfl, by omega, hf⟩
  | forkRefused n e => exact absurd (List.mem_cons_of_mem _ List.mem_cons_self) (hforks e)
  | next pid _ ih =>
    obtain ⟨hf, hmade⟩ := hmade
    have hf : 3 ≤ f := hf
    rcases ih hmade fun e he => hforks e (List.mem_cons_of_mem _ (List.mem_cons_of_mem _ he)) with ⟨hnone, -⟩ | h
    · exact .inl ⟨hnone, fun _ => hf⟩
    · omega

/-- The first pipe needs two descriptors, and each of the others one more than these. -/
theorem Spawning.supplied_first {limit f n : Nat} {made : List Noted} {pids : List Pid} {failure : Option Failure}
    (h : Spawning n made pids failure) (hmade : (Supply.below limit f).Grants 0 (made.filterMap Noted.pipe?))
    (hforks : ∀ e, .refused (.fork e) ∉ made) :
    failure = none ∧ min (2 * (n - 1)) 3 ≤ f ∨
      failure = some (.pipe .tooManyOpen) ∧ f < min (2 * (n - 1)) 3 ∧ pids.length = f - 1 := by
  cases h with
  | nothing | last => exact .inl ⟨rfl, by omega⟩
  | lastRefused e => exact absurd List.mem_cons_self (hforks e)
  | pipeRefused n e =>
    obtain ⟨⟨rfl, hf⟩, -⟩ := hmade
    exact .inr ⟨rfl, by omega, by rw [List.length_nil]; omega⟩
  | forkRefused n e => exact absurd (List.mem_cons_of_mem _ List.mem_cons_self) (hforks e)
  | next pid h =>
    obtain ⟨hf, hmade⟩ := hmade
    have hf : 2 ≤ f := hf
    rcases h.supplied hmade fun e he => hforks e (List.mem_cons_of_mem _ (List.mem_cons_of_mem _ he)) with
      ⟨rfl, hall⟩ | ⟨rfl, rfl, hn, hf'⟩
    · exact .inl ⟨rfl, by omega⟩
    · exact .inr ⟨rfl, by omega, by rw [List.length_singleton]; omega⟩

/-- What comes of a launch of `n` stages if `f` descriptors are free and no fork is refused. -/
structure Rations (f n : Nat) (r : Except Failure (List Pid)) (new : List Noted) : Prop where
  pipes : (∀ e, .refused (.pipe e) ∉ new) ↔ min (2 * (n - 1)) 3 ≤ f
  enough : min (2 * (n - 1)) 3 ≤ f → ∃ pids, r = .ok pids ∧ pids.length = n
  /-- Two descriptors are enough for the first pipe, but not for another one. -/
  two : f = 2 → 3 ≤ n → r = .error (.pipe .tooManyOpen) ∧ (new.filterMap Noted.forked?).length = 1
  fewer : f < 2 → 2 ≤ n → r = .error (.pipe .tooManyOpen) ∧ new.filterMap Noted.forked? = []

theorem Spawning.rations_ok {limit f n : Nat} {made : List Noted} {pids : List Pid} (h : Spawning n made pids none)
    (hmade : (Supply.below limit f).Grants 0 (made.filterMap Noted.pipe?)) (hforks : ∀ e, .refused (.fork e) ∉ made) :
    Rations f n (.ok pids) made := by
  obtain ⟨-, hf⟩ := (h.supplied_first hmade hforks).resolve_right fun h => by cases h.1
  refine ⟨iff_of_true (fun e => h.not_refused _) hf, fun _ => ⟨pids, rfl, h.length⟩, fun _ _ => ?_, fun _ _ => ?_⟩ <;>
    omega

theorem Spawning.rations_error {limit f n : Nat} {made : List Noted} {pids : List Pid} {failure : Failure}
    (h : Spawning n made pids (some failure)) (habandon : Abandoning reaper pids notes)
    (hmade : (Supply.below limit f).Grants 0 (made.filterMap Noted.pipe?)) (hforks : ∀ e, .refused (.fork e) ∉ made) :
    Rations f n (.error failure) (made ++ notes) := by
  obtain ⟨he, hf, hlength⟩ := (h.supplied_first hmade hforks).resolve_left fun h => by cases h.1
  obtain rfl := Option.some.inj he
  have hforked : (made ++ notes).filterMap Noted.forked? = pids := by
    rw [List.filterMap_append, h.forked, habandon.forked, List.append_nil]
  refine ⟨iff_of_false (fun hno => hno _ (List.mem_append_left _ h.refused_mem)) (by omega), fun _ => ?_,
    fun _ _ => ⟨rfl, ?_⟩, fun _ _ => ⟨rfl, ?_⟩⟩
  · omega
  · rw [hforked]
    omega
  · rw [hforked]
    exact List.eq_nil_of_length_eq_zero (by omega)

/-- At every moment of a launch, however many stages it has, the interpreter has at most three descriptors beside those
from before. Where there is a limit to the descriptors, and as long as no fork is refused, it depends on the number of
those that are free below it what comes of the launch: three are enough for any launch and two for two stages, while one
stage needs none; with two, a longer launch gets to the second pipe, and with fewer not even the first is made. -/
theorem spawn_needs_three_descriptors (reaper : Prop) (grouped : Bool) (stages : List Invocation) (s : State) :
    (∀ s' q, Prog.Reaches (world reaper) (s, Launch.spawn grouped stages) (s', q) →
      ∃ held : Finset Descriptor, held.card ≤ 3 ∧ (∀ d ∈ held, s.descriptors d = none) ∧
        ∀ d ∉ held, s'.descriptors d = s.descriptors d) ∧
    ∀ limit notes, Prog.Concludes ((rationed limit reaper).noting note) (fun r k' => ∃ new, k'.2 = notes ++ new ∧
      ((∀ e, .refused (.fork e) ∉ new) → Rations (s.descriptors.free limit).card stages.length r new))
      (s, notes) (Launch.spawn grouped stages) := by
  refine ⟨fun s' q h => ?_, fun limit notes => ?_⟩
  · obtain ⟨new, h⟩ := h.noting note []
    obtain ⟨held, hcard, ho, -⟩ := opened_of_reaches (S := .any) id
      (fun {_ c _ r _} _ ha => ⟨ha, by cases c <;> first | trivial | (cases r <;> trivial)⟩)
      (ensures_spawn_held grouped stages) h
    exact ⟨held, hcard, fun d hd => (ho.fresh d hd).2.1, ho.rest⟩
  · have hspawn : Prog.Concludes (noted reaper) _ (s, notes) (Launch.spawn grouped stages) :=
      (Launch.halts_spawn grouped stages (s, notes)).concludes .refl (ensures_spawn grouped stages _)
    have hspawn : Prog.Concludes ((rationed limit reaper).noting note) _ (s, notes) (Launch.spawn grouped stages) :=
      hspawn.narrow (W := noted reaper) (fun _ _ h => h) (fun _ _ _ _ h => ⟨h.1.1, h.2⟩) fun _ _ => open_rationed
    refine hspawn.reached.mono ?_
    rintro r k' ⟨⟨k₁, hk, hr⟩, hreaches⟩
    obtain ⟨-, hnotes⟩ := Surroundings.noting_drifts_iff.mp hk
    obtain ⟨held, -, -, new, hnew, hgrants⟩ := opened_of_reaches (W := rationed limit reaper)
      (S := .below limit (s.descriptors.free limit).card) id (fun ho ha => ⟨ha.1, Rationed.allows ho ha.1 ha.2⟩)
      (ensures_spawn_held grouped stages) hreaches
    have hnew : k'.2 = notes ++ new := congrArg Prod.snd hnew
    refine ⟨new, hnew, fun hforks => ?_⟩
    cases r with
    | ok pids =>
      obtain ⟨made, hmade, hn, -⟩ := hr
      obtain rfl : new = made := List.append_cancel_left (hnew.symm.trans (hnotes.trans hn))
      exact hmade.rations_ok hgrants hforks
    | error failure =>
      obtain ⟨made, pids, abandoned, hmade, habandon, hn, -⟩ := hr
      obtain rfl : new = made ++ abandoned := List.append_cancel_left (hnew.symm.trans (hnotes.trans hn))
      rw [List.filterMap_append, habandon.pipes, List.append_nil] at hgrants
      exact hmade.rations_error habandon hgrants fun e he => hforks e (List.mem_append_left _ he)

end Estate

end JobShell
