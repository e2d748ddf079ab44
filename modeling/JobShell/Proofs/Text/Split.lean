import JobShell.Pipeline.Word
import Mathlib.Algebra.BigOperators.Group.List.Basic
import Mathlib.Data.List.DropRight

/-! # Cutting text

The cuts that lines are read by, in the words of the standard library, and what they do to a text that was put
together: a segment ends at a bar, a word at a blank, and white space is trimmed from either end. -/

namespace JobShell.Text

theorem splitBy_eq_splitOnP (p : Char → Bool) (t : Text) : splitBy p t = t.splitOnP p := by
  induction t with
  | nil => rfl
  | cons c cs ih =>
    rw [List.splitOnP_cons_eq_if_modifyHead]
    cases hc : p c
    · rcases hs : cs.splitOnP p with _ | ⟨piece, pieces⟩
      · exact absurd hs (List.splitOnP_ne_nil p cs)
      · simp [splitBy, hc, ih, hs]
    · simp [splitBy, hc, ih]

/-! ### Segments -/

theorem segments_eq_splitOn (t : Text) : segments t = t.splitOn '|' :=
  splitBy_eq_splitOnP _ t

theorem segments_of_notMem {t : Text} (h : '|' ∉ t) : segments t = [t] := by
  rw [segments_eq_splitOn, List.splitOn_eq_singleton h]

theorem segments_append_bar {t : Text} (h : '|' ∉ t) (rest : Text) :
    segments (t ++ '|' :: rest) = t :: segments rest := by
  rw [segments_eq_splitOn, segments_eq_splitOn, List.splitOn_append_cons_self_of_not_mem h]

/-- A piece is made of characters of the text that are not cut at. -/
theorem mem_of_mem_splitOnP {α : Type} {p : α → Bool} {t piece : List α} (h : piece ∈ t.splitOnP p) :
    ∀ c ∈ piece, p c = false ∧ c ∈ t := by
  induction t generalizing piece with
  | nil =>
    rw [List.splitOnP_nil, List.mem_singleton] at h
    simp [h]
  | cons a t ih =>
    obtain ⟨first, pieces, hs⟩ := List.exists_cons_of_ne_nil (List.splitOnP_ne_nil p t)
    rw [hs] at ih
    have later : ∀ q ∈ first :: pieces, ∀ c ∈ q, p c = false ∧ c ∈ a :: t := fun q hq c hc =>
      ⟨(ih hq c hc).1, List.mem_cons_of_mem a (ih hq c hc).2⟩
    rw [List.splitOnP_cons_eq_if_modifyHead, hs] at h
    split at h
    · rcases List.mem_cons.mp h with rfl | h
      · simp
      · exact later piece h
    · rename_i ha
      rw [List.modifyHead_cons] at h
      rcases List.mem_cons.mp h with rfl | h
      · intro c hc
        rcases List.mem_cons.mp hc with rfl | hc
        · exact ⟨by simpa using ha, List.mem_cons_self⟩
        · exact later first List.mem_cons_self c hc
      · exact later piece (List.mem_cons_of_mem _ h)

theorem bar_notMem_segment {t s : Text} (h : s ∈ segments t) : '|' ∉ s := by
  rw [segments, splitBy_eq_splitOnP] at h
  intro hb
  have := (mem_of_mem_splitOnP h '|' hb).1
  simp at this

theorem length_splitOn (c : Char) (t : Text) : (t.splitOn c).length = t.count c + 1 := by
  induction t with
  | nil => rfl
  | cons a t ih =>
    rw [List.splitOn_cons_eq_if_modifyHead, List.count_cons]
    split <;> simp [ih]

theorem flatten_splitOnP {α : Type} (p : α → Bool) (t : List α) : (t.splitOnP p).flatten = t.filter fun c => !p c := by
  induction t with
  | nil => rfl
  | cons a t ih =>
    obtain ⟨first, pieces, hs⟩ := List.exists_cons_of_ne_nil (List.splitOnP_ne_nil p t)
    rw [List.splitOnP_cons_eq_if_modifyHead, hs]
    rw [hs] at ih
    cases ha : p a <;> simp [ha, ← ih]

theorem flatten_splitOn_sublist (c : Char) (t : Text) : (t.splitOn c).flatten.Sublist t := by
  rw [List.splitOn_eq_splitOnP, flatten_splitOnP]
  exact List.filter_sublist

theorem sublist_of_mem_splitOn {c : Char} {t piece : Text} (h : piece ∈ t.splitOn c) : piece.Sublist t :=
  (List.sublist_flatten_of_mem h).trans (flatten_splitOn_sublist c t)

/-! ### Words -/

theorem words_eq_splitOnP (t : Text) : words t = (t.splitOnP isBlank).filter fun w => !w.isEmpty := by
  rw [words, splitBy_eq_splitOnP]

/-- A word is not empty, has no blank in it, and is made of characters of its text. -/
theorem mem_words {t w : Text} (h : w ∈ words t) :
    w ≠ [] ∧ (∀ c ∈ w, isBlank c = false) ∧ ∀ c ∈ w, c ∈ t := by
  rw [words_eq_splitOnP, List.mem_filter] at h
  obtain ⟨hw, hne⟩ := h
  exact ⟨by simpa using hne, fun c hc => (mem_of_mem_splitOnP hw c hc).1, fun c hc => (mem_of_mem_splitOnP hw c hc).2⟩

theorem words_nil : words [] = [] := rfl

theorem words_of_word {w : Text} (hne : w ≠ []) (hw : ∀ c ∈ w, isBlank c = false) : words w = [w] := by
  simp [words_eq_splitOnP, List.splitOnP_eq_singleton hw, hne]

/-- A blank parts the words in front of it from those behind it. -/
theorem words_append_cons {c : Char} (hc : isBlank c = true) (front back : Text) :
    words (front ++ c :: back) = words front ++ words back := by
  rw [words_eq_splitOnP, List.splitOnP_append_cons front back hc, List.filter_append, ← words_eq_splitOnP,
    ← words_eq_splitOnP]

theorem words_append_blank {w : Text} (hne : w ≠ []) (hw : ∀ c ∈ w, isBlank c = false) {c : Char}
    (hc : isBlank c = true) (rest : Text) : words (w ++ c :: rest) = w :: words rest := by
  rw [words_append_cons hc, words_of_word hne hw, List.singleton_append]

/-- A blank at the end is behind the last word. -/
theorem words_append_singleton {c : Char} (hc : isBlank c = true) (t : Text) : words (t ++ [c]) = words t := by
  rw [words_append_cons hc, words_nil, List.append_nil]

/-- Words with a blank between them are read as these words. -/
theorem words_join {ws : List Text} (h : ∀ w ∈ ws, w ≠ [] ∧ ∀ c ∈ w, isBlank c = false) :
    words (join [' '] ws) = ws := by
  induction ws with
  | nil => rfl
  | cons w ws ih =>
    obtain ⟨⟨hne, hw⟩, hws⟩ := List.forall_mem_cons.mp h
    cases ws with
    | nil => simpa [join, List.intercalate] using words_of_word hne hw
    | cons v ws =>
      have hj : join [' '] (w :: v :: ws) = w ++ ' ' :: join [' '] (v :: ws) := by
        simp [join, List.intercalate]
      rw [hj, words_append_blank hne hw rfl, ih hws]

/-- A text that begins with a character that is no blank begins with its first word. -/
theorem words_head {c : Char} (hc : isBlank c = false) (t : Text) :
    ∃ w ws, words (c :: t) = (c :: w) :: ws := by
  rw [words_eq_splitOnP, List.splitOnP_cons_eq_if_modifyHead, hc]
  rcases hs : t.splitOnP isBlank with _ | ⟨first, pieces⟩
  · exact absurd hs (List.splitOnP_ne_nil _ t)
  · exact ⟨first, pieces.filter fun w => !w.isEmpty, by simp⟩

/-- Only blanks are left out between words. -/
theorem flatten_words (t : Text) : (words t).flatten = t.filter fun c => !isBlank c := by
  rw [words_eq_splitOnP, List.flatten_filter_not_isEmpty, flatten_splitOnP]

theorem length_words_le (t : Text) : (words t).length ≤ t.length := by
  have hwords : ∀ n ∈ (words t).map List.length, 1 ≤ n := fun n hn => by
    obtain ⟨w, hw, rfl⟩ := List.mem_map.mp hn
    exact List.length_pos_iff.mpr (mem_words hw).1
  calc (words t).length ≤ ((words t).map List.length).sum := by
        simpa using List.length_le_sum_of_one_le _ hwords
    _ = (t.filter fun c => !isBlank c).length := by rw [← List.length_flatten, flatten_words]
    _ ≤ t.length := List.length_filter_le _ _

/-! ### White space at the ends -/

theorem isBlank_of_not_isWhiteSpace {c : Char} (h : isWhiteSpace c = false) : isBlank c = false := by
  cases hb : isBlank c
  · rfl
  · rw [isWhiteSpace_of_isBlank hb] at h
    cases h

theorem trimStart_cons {c : Char} (h : isWhiteSpace c = false) (t : Text) : trimStart (c :: t) = c :: t := by
  simp [trimStart, h]

theorem trimStart_space {c : Char} (h : isWhiteSpace c = true) (t : Text) : trimStart (c :: t) = trimStart t := by
  simp [trimStart, h]

/-- What is left of a text begins with a character that is not white space. -/
theorem head_trimStart {t : Text} {c : Char} {cs : Text} (h : trimStart t = c :: cs) : isWhiteSpace c = false := by
  unfold trimStart at h
  have hne : t.dropWhile isWhiteSpace ≠ [] := by simp [h]
  have hc := List.head_dropWhile_not isWhiteSpace hne
  simpa only [h, List.head_cons] using hc

theorem rdropWhile_sublist (p : Char → Bool) (t : Text) : (t.rdropWhile p).Sublist t :=
  List.IsPrefix.sublist <| List.rdropWhile_prefix p t

theorem rdropWhile_append_cons {p : Char → Bool} {c : Char} (hc : p c = false) (before after : Text) :
    (before ++ c :: after).rdropWhile p = before ++ c :: after.rdropWhile p := by
  simp only [List.rdropWhile, List.reverse_append, List.reverse_cons, List.append_assoc, List.dropWhile_append]
  split
  · rename_i h
    simp [List.isEmpty_iff.mp h, hc]
  · simp

theorem rtakeWhile_append_cons {p : Char → Bool} {c : Char} (hc : p c = false) (before after : Text) :
    (before ++ c :: after).rtakeWhile p = after.rtakeWhile p := by
  have h : (before ++ c :: after).rdropWhile p ++ (before ++ c :: after).rtakeWhile p =
      (before ++ c :: after.rdropWhile p) ++ after.rtakeWhile p := by
    simp [List.rdropWhile_append_rtakeWhile]
  rw [rdropWhile_append_cons hc] at h
  exact List.append_cancel_left h

theorem trimEnd_eq_rdropWhile (t : Text) : trimEnd t = t.rdropWhile isWhiteSpace := rfl

theorem trimEnd_concat {c : Char} (h : isWhiteSpace c = false) (t : Text) : trimEnd (t ++ [c]) = t ++ [c] := by
  rw [trimEnd_eq_rdropWhile, List.rdropWhile_concat_neg]
  simp [h]

theorem mem_of_mem_trimStart {t : Text} {c : Char} (h : c ∈ trimStart t) : c ∈ t :=
  (List.dropWhile_sublist _).subset h

theorem trimStart_append {front rest : Text} (hfront : ∀ c ∈ front, isWhiteSpace c = true)
    (hrest : ∀ c ∈ rest.head?, isWhiteSpace c = false) : trimStart (front ++ rest) = rest := by
  rw [trimStart, List.dropWhile_append_of_pos hfront]
  cases rest with
  | nil => rfl
  | cons c rest => exact trimStart_cons (hrest c rfl) rest

theorem trimEnd_append {rest back : Text} (hback : ∀ c ∈ back, isWhiteSpace c = true)
    (hrest : ∀ c ∈ rest.getLast?, isWhiteSpace c = false) : trimEnd (rest ++ back) = rest := by
  have hspace : back.rdropWhile isWhiteSpace = [] := List.rdropWhile_eq_nil_iff.mpr hback
  rcases List.eq_nil_or_concat rest with rfl | ⟨init, c, rfl⟩
  · exact hspace
  · rw [List.concat_eq_append] at hrest ⊢
    rw [trimEnd_eq_rdropWhile, List.append_assoc, List.singleton_append,
      rdropWhile_append_cons (hrest c List.getLast?_concat), hspace]

/-- The inner text is all that is between the white space at the ends of a text. -/
def Stripped (t inner : Text) : Prop :=
  ∃ front back, t = front ++ inner ++ back ∧ (∀ c ∈ front ++ back, isWhiteSpace c = true) ∧
    (∀ c ∈ inner.head?, isWhiteSpace c = false) ∧ ∀ c ∈ inner.getLast?, isWhiteSpace c = false

theorem stripped_trim (t : Text) : Stripped t t.trim := by
  have hsplit : t = t.takeWhile isWhiteSpace ++ t.trim ++ t.trimStart.rtakeWhile isWhiteSpace := by
    rw [trim, trimEnd_eq_rdropWhile, List.append_assoc, List.rdropWhile_append_rtakeWhile]
    exact (List.takeWhile_append_dropWhile).symm
  refine ⟨_, _, hsplit, fun c hc => ?_, fun c hc => ?_, fun c hc => ?_⟩
  · exact (List.mem_append.mp hc).elim List.mem_takeWhile_imp List.mem_rtakeWhile_imp
  · obtain ⟨inner, hinner⟩ := List.head?_eq_some_iff.mp hc
    obtain ⟨rest, hrest⟩ := List.rdropWhile_prefix isWhiteSpace t.trimStart
    rw [← trimEnd_eq_rdropWhile, ← trim, hinner] at hrest
    exact head_trimStart hrest.symm
  · obtain ⟨hne, rfl⟩ := List.mem_getLast?_eq_getLast hc
    exact Bool.eq_false_iff.mpr (List.rdropWhile_last_not isWhiteSpace t.trimStart hne)

/-- There is one way to take off the white space at the ends of a text. -/
theorem trim_eq_iff {t inner : Text} : t.trim = inner ↔ Stripped t inner := by
  constructor
  · rintro rfl
    exact stripped_trim t
  · rintro ⟨front, back, rfl, hspace, hhead, hlast⟩
    obtain ⟨hfront, hback⟩ := List.forall_mem_append.mp hspace
    cases inner with
    | nil =>
      rw [List.append_nil, trim, trimStart, List.dropWhile_eq_nil_iff.mpr hspace]
      rfl
    | cons c inner =>
      have hstart : trimStart (front ++ (c :: inner ++ back)) = c :: inner ++ back := trimStart_append hfront hhead
      rw [List.append_assoc, trim, hstart, trimEnd_append hback hlast]

theorem trim_eq_nil_iff {t : Text} : t.trim = [] ↔ ∀ c ∈ t, isWhiteSpace c = true := by
  rw [trim_eq_iff]
  constructor
  · rintro ⟨front, back, rfl, hspace, -⟩
    rwa [List.append_nil]
  · exact fun h => ⟨t, [], by simp, by simpa using h, nofun, nofun⟩

end JobShell.Text
