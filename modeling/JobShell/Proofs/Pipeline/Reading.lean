import JobShell.Pipeline.Basic
import JobShell.Proofs.Pipeline.Stage
import JobShell.Proofs.Text.Split

/-! # Which lines are read

What a line is read as follows from its mark and from the words of its first segments. A line without anything
else than white space is a pipeline without stages. Any other line fails by the leftmost of these segments that no
stage can be read from, and is a pipeline of one stage for each of them if there is no such segment. -/

namespace JobShell.Pipeline
open Text Stage

/-- A line has a mark if its last character that is not white space is a `&`. -/
def isMarked (line : Text) : Bool :=
  (line.rdropWhile isWhiteSpace).getLast? == some '&'

/-- The line without the white space at its end, and without its mark. -/
def body (line : Text) : Text :=
  if isMarked line then (line.rdropWhile isWhiteSpace).dropLast else line.rdropWhile isWhiteSpace

/-- The words that the limits let through, segment by segment. The words of a segment are its longest runs of
characters that are not blanks, white space in front of it apart. -/
def looked (limits : Limits) (line : Text) : List (List Text) :=
  (((body line).splitOn '|').take limits.stages).map fun segment =>
    (((segment.dropWhile isWhiteSpace).splitOnP isBlank).filter (· ≠ [])).take limits.words

theorem splitMark_eq (line : Text) : splitMark line = (body line, isMarked line) := by
  unfold splitMark body isMarked
  simp only [trimEnd_eq_rdropWhile, beq_iff_eq]
  split
  · rename_i h
    simp [h]
  · rename_i h
    simp [h]

theorem tokenize_trimStart (limit : Nat) (segment : Text) : tokenize limit (trimStart segment) =
    (((segment.dropWhile isWhiteSpace).splitOnP isBlank).filter (· ≠ [])).take limit := by
  rw [tokenize, words_eq_splitOnP, trimStart]
  congr 1
  exact List.filter_congr fun w _ => by cases w <;> rfl

theorem looked_eq (limits : Limits) (line : Text) : looked limits line =
    (((body line).splitOn '|').take limits.stages).map fun s => (words (trimStart s)).take limits.words :=
  List.map_congr_left fun segment _ => (tokenize_trimStart limits.words segment).symm

theorem body_sublist (line : Text) : (body line).Sublist line := by
  unfold body
  split
  · exact (List.dropLast_sublist _).trans (rdropWhile_sublist _ _)
  · exact rdropWhile_sublist _ _

theorem mapM_segments (limits : Limits) (line : Text) :
    (((body line).segments.take limits.stages).mapM fun s => Stage.parse limits.words s.trimStart) =
      (looked limits line).mapM ofWords := by
  rw [looked, List.mapM_map, segments_eq_splitOn]
  congr 1
  funext segment
  rw [parse_eq_ofWords, tokenize_trimStart, Function.comp_apply]

/-- A line that is not empty is read segment by segment. -/
theorem parse_eq_mapM {line : Text} (h : (body line).isSpace = false) (limits : Limits) :
    parse limits line = ((looked limits line).mapM ofWords).map fun stages => ⟨stages, isMarked line⟩ := by
  simp only [parse, splitMark_eq, h, Bool.false_eq_true, ↓reduceIte, mapM_segments]
  cases (looked limits line).mapM ofWords <;> rfl

theorem parse_of_isSpace {line : Text} (h : (body line).isSpace = true) (limits : Limits) :
    parse limits line = .ok ⟨[], isMarked line⟩ := by
  simp only [parse, splitMark_eq, h, ↓reduceIte]

/-- The words that become stages: those that are looked at, and none of an empty line. -/
def asking (limits : Limits) (line : Text) : List (List Text) :=
  if (body line).isSpace then [] else looked limits line

theorem parse_eq_asking (limits : Limits) (line : Text) :
    parse limits line = ((asking limits line).mapM ofWords).map fun stages => ⟨stages, isMarked line⟩ := by
  unfold asking
  split
  · rename_i hspace
    exact parse_of_isSpace hspace limits
  · rename_i hspace
    exact parse_eq_mapM (eq_false_of_ne_true hspace) limits

theorem parse_eq_ok_iff {limits : Limits} {line : Text} {p : Pipeline} : parse limits line = .ok p ↔
    (asking limits line).mapM ofWords = .ok p.stages ∧ p.background = isMarked line := by
  rw [parse_eq_asking, map_eq_ok_iff]
  constructor
  · rintro ⟨stages, hread, rfl⟩
    exact ⟨hread, rfl⟩
  · rintro ⟨hread, hmark⟩
    exact ⟨p.stages, hread, by rw [← hmark]⟩

theorem parse_eq_error_iff {limits : Limits} {line : Text} {f : Failure} :
    parse limits line = .error f ↔ (asking limits line).mapM ofWords = .error f := by
  rw [parse_eq_asking, map_eq_error_iff]

theorem parse_of_leftmost {limits : Limits} {line : Text} (h : (body line).isSpace = false)
    {before after : List (List Text)} {ws : List Text} (hl : looked limits line = before ++ ws :: after)
    (hb : ∀ b ∈ before, ¬Bad b) {f : Failure} (hf : ofWords ws = .error f) : parse limits line = .error f := by
  have hok : ∀ b ∈ before, ∃ s, ofWords b = .ok s := fun b hm => by
    obtain ⟨s, hs, -⟩ := ofWords_of_not_bad (hb b hm)
    exact ⟨s, hs⟩
  rw [parse_eq_mapM h, hl, mapM_append_error hok hf]
  rfl

theorem parse_of_not_bad {limits : Limits} {line : Text} (h : (body line).isSpace = false)
    (hb : ∀ ws ∈ looked limits line, ¬Bad ws) :
    ∃ stages, List.Forall₂ Asks (looked limits line) stages ∧ parse limits line = .ok ⟨stages, isMarked line⟩ := by
  have hok : ∀ ws ∈ looked limits line, ∃ s, ofWords ws = .ok s := fun ws hm => by
    obtain ⟨s, hs, -⟩ := ofWords_of_not_bad (hb ws hm)
    exact ⟨s, hs⟩
  obtain ⟨stages, hs⟩ := exists_mapM_ok hok
  refine ⟨stages, ?_, ?_⟩
  · exact (mapM_eq_ok_iff.mp hs).imp fun _ _ h' => ofWords_eq_ok_iff.mp h'
  · rw [parse_eq_mapM h, hs]
    rfl

/-- The leftmost bad segment of a list that has one. -/
theorem exists_leftmost_bad {wss : List (List Text)} (h : ∃ ws ∈ wss, Bad ws) :
    ∃ before ws after, wss = before ++ ws :: after ∧ (∀ b ∈ before, ¬Bad b) ∧ Bad ws := by
  induction wss with
  | nil =>
    obtain ⟨ws, hm, -⟩ := h
    cases hm
  | cons first wss ih =>
    by_cases hf : Bad first
    · exact ⟨[], first, wss, rfl, by simp, hf⟩
    · obtain ⟨ws, hm, hbad⟩ := h
      rcases List.mem_cons.mp hm with rfl | hm
      · exact absurd hbad hf
      · obtain ⟨before, ws, after, rfl, hb, hbad⟩ := ih ⟨ws, hm, hbad⟩
        exact ⟨first :: before, ws, after, rfl, List.forall_mem_cons.mpr ⟨hf, hb⟩, hbad⟩

theorem exists_ofWords_error {ws : List Text} (h : Bad ws) : ∃ f, ofWords ws = .error f := by
  by_cases hd : ∃ d, EndsInOperator ws d
  · obtain ⟨d, hd⟩ := hd
    exact ⟨_, ofWords_of_endsInOperator hd⟩
  · exact ⟨_, ofWords_of_bad h (not_exists.mp hd)⟩

/-- What a line is read as. A body of white space is no stage. Otherwise the reading fails if and only if one of
the segments that are looked at is bad; the leftmost of them is what the failure is about, which is a missing target
if its first operator is its last word, and an empty stage else. Without a bad segment, each of them becomes the
stage that its words ask for. -/
theorem parse_eq_leftmost_bad (limits : Limits) (line : Text) :
    ((∀ c ∈ body line, isWhiteSpace c = true) → parse limits line = .ok ⟨[], isMarked line⟩) ∧
    (¬(∀ c ∈ body line, isWhiteSpace c = true) →
      ((∃ f, parse limits line = .error f) ↔ ∃ ws ∈ looked limits line, Bad ws) ∧
      (∀ before ws after, looked limits line = before ++ ws :: after → (∀ b ∈ before, ¬Bad b) → Bad ws →
        (∀ d, EndsInOperator ws d → parse limits line = .error (.missingTarget d.operator)) ∧
        ((∀ d, ¬EndsInOperator ws d) → parse limits line = .error .emptyStage)) ∧
      ((∀ ws ∈ looked limits line, ¬Bad ws) → ∃ stages, List.Forall₂ Asks (looked limits line) stages ∧
        parse limits line = .ok ⟨stages, isMarked line⟩)) := by
  refine ⟨fun h => parse_of_isSpace (List.all_eq_true.mpr h) limits, fun h => ?_⟩
  have hspace : (body line).isSpace = false := by
    rw [isSpace, Bool.eq_false_iff, ne_eq, List.all_eq_true]
    exact h
  refine ⟨⟨?_, ?_⟩, ?_, parse_of_not_bad hspace⟩
  · rintro ⟨f, hf⟩
    by_contra hbad
    have hnone : ∀ ws ∈ looked limits line, ¬Bad ws := fun ws hm hb => hbad ⟨ws, hm, hb⟩
    obtain ⟨stages, -, hok⟩ := parse_of_not_bad hspace hnone
    rw [hok] at hf
    cases hf
  · intro hbad
    obtain ⟨before, ws, after, hl, hb, hws⟩ := exists_leftmost_bad hbad
    obtain ⟨f, hf⟩ := exists_ofWords_error hws
    exact ⟨f, parse_of_leftmost hspace hl hb hf⟩
  · intro before ws after hl hb hws
    exact ⟨fun d hd => parse_of_leftmost hspace hl hb (ofWords_of_endsInOperator hd),
      fun hd => parse_of_leftmost hspace hl hb (ofWords_of_bad hws hd)⟩

end JobShell.Pipeline
