import JobShell.Proofs.Text.Split

/-! # Words and the blanks around them

Every text is laid out as words with gaps of blanks. There is a gap between any two words, and there may be one in front
of the first and behind the last. The words of a text are those that it is laid out with, however wide the gaps are. -/

namespace JobShell.Text

def IsGap (t : Text) : Prop := ∀ c ∈ t, isBlank c = true

def IsWord (w : Text) : Prop := w ≠ [] ∧ ∀ c ∈ w, isBlank c = false

/-- A text that no word in front of it runs into. -/
def Parted (t : Text) : Prop := ∀ c ∈ t.head?, isBlank c = true

/-- Words, each with the gap in front of it, and the gap `tail` behind them, as one text. -/
def laid (tail : Text) : List (Text × Text) → Text
  | [] => tail
  | (gap, w) :: pieces => gap ++ (w ++ laid tail pieces)

/-- Words with gaps. The gap in front of the first word and the one behind the last word may be empty, and no gap between
two words is. -/
structure Layout where
  pieces : List (Text × Text)
  tail : Text
  sound : ∀ p ∈ pieces, IsGap p.1 ∧ IsWord p.2
  isGap_tail : IsGap tail
  apart : ∀ p ∈ pieces.tail, p.1 ≠ []

namespace Layout

def words (layout : Layout) : List Text := layout.pieces.map Prod.snd

def text (layout : Layout) : Text := laid layout.tail layout.pieces

end Layout

variable {t w gap rest tail : Text} {pieces : List (Text × Text)}

/-! ### Gaps and words in front of a text -/

theorem words_blank {c : Char} (hc : isBlank c = true) (t : Text) : words (c :: t) = words t :=
  words_append_cons hc [] t

theorem words_gap (hgap : IsGap gap) (t : Text) : words (gap ++ t) = words t := by
  induction gap with
  | nil => rfl
  | cons c gap ih =>
    obtain ⟨hc, hgap⟩ := List.forall_mem_cons.mp hgap
    rw [List.cons_append, words_blank hc, ih hgap]

theorem words_word (hw : IsWord w) (hrest : Parted rest) : words (w ++ rest) = w :: words rest := by
  cases rest with
  | nil => rw [List.append_nil, words_of_word hw.1 hw.2, words_nil]
  | cons c rest =>
    have hc : isBlank c = true := hrest c rfl
    rw [words_append_blank hw.1 hw.2 hc, words_blank hc]

theorem isWord_of_mem_words (h : w ∈ words t) : IsWord w := by
  obtain ⟨hne, hplain, -⟩ := mem_words h
  exact ⟨hne, hplain⟩

theorem parted_laid (hsound : ∀ p ∈ pieces, IsGap p.1 ∧ IsWord p.2) (hne : ∀ p ∈ pieces, p.1 ≠ [])
    (htail : IsGap tail) : Parted (laid tail pieces) := by
  intro c hc
  cases pieces with
  | nil => exact htail c (List.mem_of_mem_head? hc)
  | cons p pieces =>
    obtain ⟨b, gap, hgap⟩ := List.exists_cons_of_ne_nil (hne p List.mem_cons_self)
    have hb : isBlank b = true := (hsound p List.mem_cons_self).1 b (by simp [hgap])
    have hbc : b = c := by simpa [laid, hgap] using hc
    exact hbc ▸ hb

/-- The words of a layout are those of its text. -/
theorem words_laid (hsound : ∀ p ∈ pieces, IsGap p.1 ∧ IsWord p.2) (happart : ∀ p ∈ pieces.tail, p.1 ≠ [])
    (htail : IsGap tail) : words (laid tail pieces) = pieces.map Prod.snd := by
  induction pieces with
  | nil =>
    have hwords : words (tail ++ []) = [] := words_gap htail []
    rwa [List.append_nil] at hwords
  | cons p pieces ih =>
    obtain ⟨⟨hgap, hw⟩, hsound⟩ := List.forall_mem_cons.mp hsound
    have hparted : Parted (laid tail pieces) := parted_laid hsound happart htail
    rw [laid, words_gap hgap, words_word hw hparted, ih hsound fun q hq => happart q (List.mem_of_mem_tail hq),
      List.map_cons]

theorem Layout.words_text (layout : Layout) : Text.words layout.text = layout.words :=
  words_laid layout.sound layout.apart layout.isGap_tail

/-! ### Every text is laid out -/

theorem isGap_takeWhile (t : Text) : IsGap (t.takeWhile isBlank) := fun _ hc => List.mem_takeWhile_imp hc

theorem parted_dropWhile (t : Text) : Parted (t.dropWhile fun c => !isBlank c) := by
  intro c hc
  have hhead := List.head?_dropWhile_not (fun c => !isBlank c) t
  rw [hc] at hhead
  simpa using hhead

/-- If no word in front of a layout would run into it, then it begins with a gap. -/
theorem Layout.apart_of_parted (layout : Layout) (h : Parted layout.text) : ∀ p ∈ layout.pieces, p.1 ≠ [] := by
  intro p hp hnil
  rcases hl : layout.pieces with _ | ⟨q, pieces⟩
  · simp [hl] at hp
  · rw [hl] at hp
    rcases List.mem_cons.mp hp with rfl | hp
    · obtain ⟨hne, hplain⟩ := (layout.sound p (by simp [hl])).2
      obtain ⟨c, cs, hc⟩ := List.exists_cons_of_ne_nil hne
      have hblank : isBlank c = true := h c (by simp [Layout.text, hl, laid, hnil, hc])
      have hink : isBlank c = false := hplain c (by simp [hc])
      rw [hblank] at hink
      cases hink
    · exact layout.apart p (by simpa [hl] using hp) hnil

def Layout.cons (layout : Layout) (hgap : IsGap gap) (hw : IsWord w) (h : Parted layout.text) : Layout where
  pieces := (gap, w) :: layout.pieces
  tail := layout.tail
  sound := List.forall_mem_cons.mpr ⟨⟨hgap, hw⟩, layout.sound⟩
  isGap_tail := layout.isGap_tail
  apart := layout.apart_of_parted h

theorem Layout.text_cons (layout : Layout) (hgap : IsGap gap) (hw : IsWord w) (h : Parted layout.text) :
    (layout.cons hgap hw h).text = gap ++ (w ++ layout.text) := rfl

theorem exists_layout (t : Text) : ∃ layout : Layout, layout.text = t := by
  -- By induction on the length: the first gap and the first word are taken off.
  have hsplit : t.takeWhile isBlank ++ t.dropWhile isBlank = t := List.takeWhile_append_dropWhile
  rcases hdrop : t.dropWhile isBlank with _ | ⟨c, cs⟩
  · have hgap : IsGap t := List.dropWhile_eq_nil_iff.mp hdrop
    exact ⟨⟨[], t, by simp, hgap, by simp⟩, rfl⟩
  · have hc : isBlank c = false := by
      have hhead := List.head?_dropWhile_not isBlank t
      rw [hdrop] at hhead
      simpa using hhead
    have hword : IsWord (c :: cs.takeWhile fun c => !isBlank c) := by
      refine ⟨by simp, List.forall_mem_cons.mpr ⟨hc, fun d hd => ?_⟩⟩
      simpa using List.mem_takeWhile_imp hd
    have hshorter : (cs.dropWhile fun c => !isBlank c).length < t.length := by
      have hcs : (cs.dropWhile fun c => !isBlank c).length ≤ cs.length := (List.dropWhile_sublist _).length_le
      have ht : (c :: cs).length ≤ t.length := hdrop ▸ (List.dropWhile_sublist _).length_le
      simp only [List.length_cons] at ht
      omega
    obtain ⟨layout, hlayout⟩ := exists_layout (cs.dropWhile fun c => !isBlank c)
    refine ⟨layout.cons (isGap_takeWhile t) hword (hlayout ▸ parted_dropWhile cs), ?_⟩
    rw [Layout.text_cons, hlayout, List.cons_append, List.takeWhile_append_dropWhile, ← hdrop, hsplit]
termination_by t.length

/-- The words of a text are those that it is laid out with. -/
theorem words_eq_iff {ws : List Text} : words t = ws ↔ ∃ layout : Layout, layout.words = ws ∧ layout.text = t := by
  constructor
  · rintro rfl
    obtain ⟨layout, rfl⟩ := exists_layout t
    exact ⟨layout, layout.words_text.symm, rfl⟩
  · rintro ⟨layout, rfl, rfl⟩
    exact layout.words_text

end JobShell.Text
