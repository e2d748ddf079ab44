import JobShell.Pipeline.Stage
import JobShell.Proofs.Traversal

/-! # Reading a stage from its words

The words of a stage are arguments up to the first operator. What is read depends on where this operator stands:
there is none, or it is the last word, or a target is behind it. -/

namespace JobShell

/-- A word that is no redirection operator. -/
def IsArgument (w : Text) : Prop := ∀ d : Direction, w ≠ d.operator

theorem ofWord?_eq_none_iff {w : Text} : Direction.ofWord? w = none ↔ IsArgument w := by
  constructor
  · rintro h d rfl
    rw [Direction.ofWord?_operator] at h
    cases h
  · intro h
    have h₁ : w ≠ ['<'] := h .input
    have h₂ : w ≠ ['>'] := h .output
    simp [Direction.ofWord?, h₁, h₂]

/-- The words are arguments, or there is a first operator. -/
theorem words_cases (ws : List Text) : (∀ w ∈ ws, IsArgument w) ∨
    ∃ args d rest, ws = args ++ Direction.operator d :: rest ∧ ∀ w ∈ args, IsArgument w := by
  induction ws with
  | nil => exact Or.inl (by simp)
  | cons w ws ih =>
    by_cases hw : IsArgument w
    · rcases ih with h | ⟨args, d, rest, rfl, h⟩
      · exact Or.inl (List.forall_mem_cons.mpr ⟨hw, h⟩)
      · exact Or.inr ⟨w :: args, d, rest, rfl, List.forall_mem_cons.mpr ⟨hw, h⟩⟩
    · simp only [IsArgument, ne_eq, Classical.not_forall, Classical.not_not] at hw
      obtain ⟨d, rfl⟩ := hw
      exact Or.inr ⟨[], d, ws, rfl, by simp⟩

/-! ### Redirections -/

namespace Redirect

theorem first?_arguments {ws : List Text} (h : ∀ w ∈ ws, IsArgument w) : first? ws = none := by
  rw [first?, List.findSome?_eq_none_iff]
  rintro ⟨w, i⟩ hw
  have hmem : w ∈ ws := List.mem_of_getElem? (List.mem_zipIdx_iff_getElem?.mp hw)
  simp [ofWord?_eq_none_iff.mpr (h w hmem)]

/-- The first operator stands behind as many words as there are arguments in front of it. -/
theorem first?_operator {args : List Text} (h : ∀ w ∈ args, IsArgument w) (d : Direction) (rest : List Text) :
    first? (args ++ d.operator :: rest) = some (args.length, d) := by
  have hargs := first?_arguments h
  rw [first?] at hargs ⊢
  rw [List.zipIdx_append, List.findSome?_append, hargs]
  simp [Direction.ofWord?_operator]

/-! What is left of words when their redirection is taken off, in each of the three cases. -/

theorem detach_arguments {ws : List Text} (h : ∀ w ∈ ws, IsArgument w) : detach ws = (.ok none, ws) := by
  rw [detach, first?_arguments h]

theorem detach_operator_last {args : List Text} (h : ∀ w ∈ args, IsArgument w) (d : Direction) :
    detach (args ++ [d.operator]) = (.error (.missingTarget d.operator), args ++ [d.operator]) := by
  have htarget : (args ++ [d.operator])[args.length + 1]? = none := by simp
  simp only [detach, first?_operator h, htarget]

theorem detach_target {args : List Text} (h : ∀ w ∈ args, IsArgument w) (d : Direction) (target : Text)
    (rest : List Text) : detach (args ++ d.operator :: target :: rest) = (.ok (some ⟨d, target⟩), args) := by
  have htarget : (args ++ d.operator :: target :: rest)[args.length + 1]? = some target := by simp
  simp only [detach, first?_operator h, htarget, List.take_left]

theorem resolve_arguments {ws : List Text} (h : ∀ w ∈ ws, IsArgument w) : resolve ws = .ok (ws, none) := by
  rw [resolve, detach_arguments h]

theorem resolve_operator_last {args : List Text} (h : ∀ w ∈ args, IsArgument w) (d : Direction) :
    resolve (args ++ [d.operator]) = .error (.missingTarget d.operator) := by
  rw [resolve, detach_operator_last h]

theorem resolve_target {args : List Text} (h : ∀ w ∈ args, IsArgument w) (d : Direction) (target : Text)
    (rest : List Text) : resolve (args ++ d.operator :: target :: rest) = .ok (args, some ⟨d, target⟩) := by
  rw [resolve, detach_target h]

end Redirect

/-! ### Stages -/

namespace Stage

/-- Reads a stage from its words. -/
def ofWords (ws : List Text) : Except Failure Stage := do
  let (args, redirect) ← Redirect.resolve ws
  let stage ← ofArgs args
  return stage.redirect redirect

theorem parse_eq_ofWords (limit : Nat) (t : Text) : parse limit t = ofWords (Text.tokenize limit t) := rfl

/-- The stage `s` that words ask for: its arguments stand in front of the first operator, and the word behind
the operator takes the place of one stream. -/
def Asks (ws : List Text) (s : Stage) : Prop :=
  (ws = s.args ∧ (∀ w ∈ s.args, IsArgument w) ∧ s.input = none ∧ s.output = none) ∨
    ∃ d target rest, ws = s.args ++ Direction.operator d :: target :: rest ∧ (∀ w ∈ s.args, IsArgument w) ∧
      s.input = (if d = .input then some target else none) ∧
      s.output = (if d = .output then some target else none)

/-- The first operator among the words is the last word. -/
def EndsInOperator (ws : List Text) (d : Direction) : Prop :=
  ∃ args, ws = args ++ [d.operator] ∧ ∀ w ∈ args, IsArgument w

/-- Words that no stage can be read from: there are none, or the first of them is an operator, or the first
operator among them is the last word. -/
def Bad (ws : List Text) : Prop :=
  ws = [] ∨ (∃ (d : Direction) (rest : List Text), ws = d.operator :: rest) ∨ ∃ d, EndsInOperator ws d

theorem ofArgs_of_ne_nil {args : List Text} (h : args ≠ []) : ofArgs args = .ok ⟨args, none, none, h⟩ :=
  dif_neg h

theorem ofWords_of_endsInOperator {ws : List Text} {d : Direction} (h : EndsInOperator ws d) :
    ofWords ws = .error (.missingTarget d.operator) := by
  obtain ⟨args, rfl, ha⟩ := h
  simp only [ofWords, Redirect.resolve_operator_last ha]
  rfl

theorem ofWords_of_bad {ws : List Text} (h : Bad ws) (hd : ∀ d, ¬EndsInOperator ws d) :
    ofWords ws = .error .emptyStage := by
  rcases h with rfl | ⟨d, rest, rfl⟩ | ⟨d, h⟩
  · rfl
  · rcases rest with _ | ⟨target, rest⟩
    · exact absurd ⟨[], rfl, by simp⟩ (hd d)
    · have hr : Redirect.resolve (d.operator :: target :: rest) = .ok ([], some ⟨d, target⟩) :=
        Redirect.resolve_target (fun _ hw => absurd hw List.not_mem_nil) d target rest
      simp only [ofWords, hr]
      rfl
  · exact absurd h (hd d)

theorem ofWords_of_asks {ws : List Text} {s : Stage} (h : Asks ws s) : ofWords ws = .ok s := by
  obtain ⟨args, input, output, hargs⟩ := s
  rcases h with ⟨rfl, ha, rfl, rfl⟩ | ⟨d, target, rest, rfl, ha, rfl, rfl⟩
  · simp only [ofWords, Redirect.resolve_arguments ha, ok_bind, ofArgs_of_ne_nil hargs]
    rfl
  · simp only [ofWords, Redirect.resolve_target ha, ok_bind, ofArgs_of_ne_nil hargs]
    cases d <;> rfl

theorem ofWords_of_not_bad {ws : List Text} (h : ¬Bad ws) : ∃ s, ofWords ws = .ok s ∧ Asks ws s := by
  suffices ha : ∃ s, Asks ws s by
    obtain ⟨s, hs⟩ := ha
    exact ⟨s, ofWords_of_asks hs, hs⟩
  simp only [Bad, not_or, not_exists] at h
  obtain ⟨hne, hfirst, hlast⟩ := h
  rcases words_cases ws with hws | ⟨args, d, rest, rfl, ha⟩
  · exact ⟨⟨ws, none, none, hne⟩, Or.inl ⟨rfl, hws, rfl, rfl⟩⟩
  · rcases rest with _ | ⟨target, rest⟩
    · exact absurd ⟨args, rfl, ha⟩ (hlast d)
    · have hargs : args ≠ [] := by
        rintro rfl
        exact hfirst d _ rfl
      exact ⟨⟨args, if d = .input then some target else none, if d = .output then some target else none, hargs⟩,
        Or.inr ⟨d, target, rest, rfl, ha, rfl, rfl⟩⟩

/-- A stage is read exactly from the words that ask for it. -/
theorem ofWords_eq_ok_iff {ws : List Text} {s : Stage} : ofWords ws = .ok s ↔ Asks ws s := by
  refine ⟨fun h => ?_, ofWords_of_asks⟩
  by_cases hb : Bad ws
  · by_cases hd : ∃ d, EndsInOperator ws d
    · obtain ⟨d, hd⟩ := hd
      rw [ofWords_of_endsInOperator hd] at h
      cases h
    · rw [ofWords_of_bad hb (not_exists.mp hd)] at h
      cases h
  · obtain ⟨t, ht, ha⟩ := ofWords_of_not_bad hb
    rw [ht] at h
    cases h
    exact ha

end Stage

/-! ### Taking a redirection off -/

namespace Redirect
open Stage

variable {ws : List Text} {d : Direction}

theorem detach_of_endsInOperator (h : EndsInOperator ws d) : detach ws = (.error (.missingTarget d.operator), ws) := by
  obtain ⟨args, rfl, hargs⟩ := h
  exact detach_operator_last hargs d

theorem detach_cases (ws : List Text) :
    (∃ d, EndsInOperator ws d) ∨ ((∀ w ∈ ws, IsArgument w) ∧ detach ws = (.ok none, ws)) ∨
      ∃ args d target rest, ws = args ++ [Direction.operator d, target] ++ rest ∧ (∀ w ∈ args, IsArgument w) ∧
        detach ws = (.ok (some ⟨d, target⟩), args) := by
  rcases words_cases ws with hws | ⟨args, d, rest, rfl, hargs⟩
  · exact Or.inr (Or.inl ⟨hws, detach_arguments hws⟩)
  · rcases rest with _ | ⟨target, rest⟩
    · exact Or.inl ⟨d, args, rfl, hargs⟩
    · exact Or.inr (Or.inr ⟨args, d, target, rest, by simp, hargs, detach_target hargs d target rest⟩)

theorem detach_eq_error_iff {f : Failure} :
    (detach ws).1 = .error f ↔ ∃ d, EndsInOperator ws d ∧ f = .missingTarget d.operator := by
  constructor
  · intro hf
    rcases detach_cases ws with ⟨d, hd⟩ | ⟨-, h⟩ | ⟨args, d, target, rest, -, -, h⟩
    · rw [detach_of_endsInOperator hd] at hf
      exact ⟨d, hd, (Except.error.inj hf).symm⟩
    · rw [h] at hf
      cases hf
    · rw [h] at hf
      cases hf
  · rintro ⟨d, hd, rfl⟩
    rw [detach_of_endsInOperator hd]

theorem detach_of_error {f : Failure} (hf : (detach ws).1 = .error f) : (detach ws).2 = ws := by
  obtain ⟨d, hd, -⟩ := detach_eq_error_iff.mp hf
  rw [detach_of_endsInOperator hd]

theorem detach_of_ok {found : Option Redirect} (hok : (detach ws).1 = .ok found) :
    (∀ w ∈ (detach ws).2, IsArgument w) ∧ ((detach ws).2 = ws ∧ found = none ∨
      ∃ d target rest, ws = (detach ws).2 ++ [Direction.operator d, target] ++ rest ∧ found = some ⟨d, target⟩) := by
  rcases detach_cases ws with ⟨d, hd⟩ | ⟨hws, h⟩ | ⟨args, d, target, rest, hws, hargs, h⟩
  · rw [detach_of_endsInOperator hd] at hok
    cases hok
  · rw [h] at hok ⊢
    exact ⟨hws, Or.inl ⟨rfl, (Except.ok.inj hok).symm⟩⟩
  · rw [h] at hok ⊢
    exact ⟨hargs, Or.inr ⟨d, target, rest, hws, (Except.ok.inj hok).symm⟩⟩

/-- A redirection cannot be taken off if the first operator is the last word, and only then; the words stay as they
were. Otherwise they are the arguments that are left, with the operator, its target and a rest behind them if anything
was found. What is left has no operator in it, so that nothing more can be taken off. -/
theorem detach_splits (ws : List Text) :
    (∀ f, (detach ws).1 = .error f ↔ ∃ d, EndsInOperator ws d ∧ f = .missingTarget d.operator) ∧
    (∀ f, (detach ws).1 = .error f → (detach ws).2 = ws) ∧
    ∀ found, (detach ws).1 = .ok found →
      (∀ w ∈ (detach ws).2, IsArgument w) ∧
      ((detach ws).2 = ws ∧ found = none ∨
        ∃ d target rest, ws = (detach ws).2 ++ [Direction.operator d, target] ++ rest ∧ found = some ⟨d, target⟩) ∧
      detach (detach ws).2 = (.ok none, (detach ws).2) := by
  refine ⟨fun _ => detach_eq_error_iff, fun _ => detach_of_error, fun found hok => ?_⟩
  obtain ⟨hargs, hsplit⟩ := detach_of_ok hok
  exact ⟨hargs, hsplit, detach_arguments hargs⟩

/-- An operator behind the first one is a word like any other. -/
example : detach ["sort".toList, "<".toList, ">".toList, "out".toList] =
    (.ok (some ⟨.input, ">".toList⟩), ["sort".toList]) := rfl

end Redirect

end JobShell
