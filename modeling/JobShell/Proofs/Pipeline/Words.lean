import JobShell.Proofs.Text.Layout
import JobShell.Proofs.Text.Reader

/-! # Reading words from front to back

Cutting a text at its blanks gives the words that are found by reading: blanks are skipped, then words are read, each with
the blanks behind it. This reading never fails and takes the whole text. It leaves out the blanks and nothing else, and
it keeps two neighbours in one word if none of them is a blank. -/

namespace JobShell.Text
open Reader

def token : Reader Text := before (many1 (one fun c => !isBlank c)) (many (one isBlank))

def tokens : Reader (List Text) := behind (many (one isBlank)) (many token)

/-- The characters `a` and `b`, which stand in a text behind `before`, are neighbours in one of its words. Words leave out
blanks alone, so what is in front of `a` in the words is what is in front of it in the text, less the blanks. -/
def Together (ws : List Text) (before : Text) (a b : Char) : Prop :=
  ∃ front u v back, ws = front ++ (u ++ a :: b :: v) :: back ∧ front.flatten ++ u = before.filter fun c => !isBlank c

variable {t w gap rest tail : Text} {pieces : List (Text × Text)}

/-! ### Reading a layout -/

theorem takeWhile_word (hw : IsWord w) (hrest : Parted rest) : (w ++ rest).takeWhile (fun c => !isBlank c) = w := by
  have hnone : rest.takeWhile (fun c => !isBlank c) = [] := by
    cases rest with
    | nil => rfl
    | cons c rest => exact List.takeWhile_cons_of_neg (by simp [show isBlank c = true from hrest c rfl])
  rw [List.takeWhile_append_of_pos (fun c hc => by simp [hw.2 c hc]), hnone, List.append_nil]

theorem dropWhile_word (hw : IsWord w) (hrest : Parted rest) : (w ++ rest).dropWhile (fun c => !isBlank c) = rest := by
  have hsplit := List.takeWhile_append_dropWhile (p := fun c => !isBlank c) (l := w ++ rest)
  rw [takeWhile_word hw hrest] at hsplit
  exact List.append_cancel_left hsplit

theorem token_word (hw : IsWord w) (hrest : Parted rest) : token (w ++ rest) = .read w (rest.dropWhile isBlank) := by
  have htake := takeWhile_word hw hrest
  have hdrop := dropWhile_word hw hrest
  have hread : many1 (one fun c => !isBlank c) (w ++ rest) = .read w rest := by
    rw [many1_one (by rw [htake]; exact hw.1), htake, hdrop]
  exact both_of_read hread (many_one isBlank rest) _

theorem dropWhile_gap (hgap : IsGap gap) (hw : IsWord w) (rest : Text) :
    (gap ++ (w ++ rest)).dropWhile isBlank = w ++ rest := by
  obtain ⟨c, cs, hc⟩ := List.exists_cons_of_ne_nil hw.1
  have hplain : isBlank c = false := hw.2 c (by simp [hc])
  rw [List.dropWhile_append_of_pos hgap, hc, List.cons_append, List.dropWhile_cons_of_neg (by simp [hplain])]

/-- Behind the first gap, words are read one after the other up to the end. -/
theorem many_token_laid (hsound : ∀ p ∈ pieces, IsGap p.1 ∧ IsWord p.2) (happart : ∀ p ∈ pieces.tail, p.1 ≠ [])
    (htail : IsGap tail) :
    many token ((laid tail pieces).dropWhile isBlank) = .read (pieces.map Prod.snd) [] := by
  -- A word takes the gap behind it along, and what is left has lost its first gap as well.
  induction pieces with
  | nil =>
    rw [laid, List.dropWhile_eq_nil_iff.mpr htail]
    exact many_of_refused rfl
  | cons p pieces ih =>
    obtain ⟨⟨hgap, hw⟩, hsound⟩ := List.forall_mem_cons.mp hsound
    have hparted : Parted (laid tail pieces) := parted_laid hsound happart htail
    have hshorter : ((laid tail pieces).dropWhile isBlank).length < (p.2 ++ laid tail pieces).length := by
      have hdrop := (List.dropWhile_sublist isBlank (l := laid tail pieces)).length_le
      have hlength : 0 < p.2.length := List.length_pos_iff.mpr hw.1
      rw [List.length_append]
      omega
    rw [laid, dropWhile_gap hgap hw, many_of_read (token_word hw hparted) hshorter,
      ih hsound fun q hq => happart q (List.mem_of_mem_tail hq)]
    rfl

/-- Reading takes the whole of a text, and finds its words. -/
theorem tokens_eq (t : Text) : tokens t = .read (words t) [] := by
  obtain ⟨layout, rfl⟩ := exists_layout t
  rw [layout.words_text]
  exact both_of_read (many_one isBlank layout.text) (many_token_laid layout.sound layout.apart layout.isGap_tail) _

/-! ### Characters of one word -/

/-- What follows a text can continue no more of it than the characters behind its last blank. -/
theorem exists_front (before : Text) : ∃ front u, before = front ++ u ∧ (∀ c ∈ u, isBlank c = false) ∧
    ∀ t, words (front ++ t) = words front ++ words t := by
  refine ⟨before.rdropWhile fun c => !isBlank c, before.rtakeWhile fun c => !isBlank c,
    List.rdropWhile_append_rtakeWhile.symm, fun c hc => by simpa using List.mem_rtakeWhile_imp hc, fun t => ?_⟩
  rcases List.eq_nil_or_concat (before.rdropWhile fun c => !isBlank c) with h | ⟨front, c, h⟩
  · rw [h]
    rfl
  · have hc : isBlank c = true := by
      have hlast := List.rdropWhile_last_not (fun c => !isBlank c) before (by simp [h])
      simpa [h] using hlast
    rw [h, List.concat_eq_append, List.append_assoc, List.singleton_append, words_append_cons hc,
      words_append_singleton hc]

theorem together_words_iff (before after : Text) (a b : Char) :
    Together (words (before ++ a :: b :: after)) before a b ↔ isBlank a = false ∧ isBlank b = false := by
  constructor
  · rintro ⟨front, u, v, back, hwords, -⟩
    have hmem : u ++ a :: b :: v ∈ words (before ++ a :: b :: after) := by simp [hwords]
    have hplain := (isWord_of_mem_words hmem).2
    exact ⟨hplain a (by simp), hplain b (by simp)⟩
  · rintro ⟨ha, hb⟩
    -- The word reaches from the last blank in front of the two to the first one behind them.
    obtain ⟨front, u, rfl, hu, hfront⟩ := exists_front before
    obtain ⟨v, back, rfl, hv, hback⟩ : ∃ v back, after = v ++ back ∧ (∀ c ∈ v, isBlank c = false) ∧ Parted back :=
      ⟨_, _, List.takeWhile_append_dropWhile.symm, fun c hc => by simpa using List.mem_takeWhile_imp hc,
        parted_dropWhile after⟩
    have hword : IsWord (u ++ a :: b :: v) := by
      refine ⟨by simp, ?_⟩
      simp only [List.mem_append, List.mem_cons]
      rintro c (hc | rfl | rfl | hc)
      exacts [hu c hc, ha, hb, hv c hc]
    have htext : front ++ u ++ a :: b :: (v ++ back) = front ++ ((u ++ a :: b :: v) ++ back) := by simp
    have hfilter : u.filter (fun c => !isBlank c) = u := List.filter_eq_self.mpr fun c hc => by simp [hu c hc]
    refine ⟨words front, u, v, words back, ?_, ?_⟩
    · rw [htext, hfront, words_word hword hback]
    · rw [flatten_words, List.filter_append, hfilter]

/-! ### The words that a limit lets through -/

theorem tokenize_of_length_le {wide : Nat} (h : t.length ≤ wide) : tokenize wide t = words t :=
  List.take_of_length_le ((length_words_le t).trans h)

/-- A text is read from front to back without a failure and without a rest, and the words up to a limit are the first of
those that a limit of the text's length lets through. These are not empty and have no blanks; all of them together are the
text without its blanks; two neighbours in the text are neighbours in a word exactly if none of them is a blank. They are
the words that the text is laid out with: any list of words is read again, whatever the gaps between them. -/
theorem tokenize_lossless (t : Text) :
    (∀ limit, (tokens t).map (List.take limit) = .read (tokenize limit t) []) ∧
    ∀ wide, t.length ≤ wide →
      (∀ limit, tokenize limit t = (tokenize wide t).take limit) ∧
      (∀ w ∈ tokenize wide t, IsWord w) ∧
      (tokenize wide t).flatten = (t.filter fun c => !isBlank c) ∧
      (∀ before a b after, t = before ++ a :: b :: after →
        (Together (tokenize wide t) before a b ↔ isBlank a = false ∧ isBlank b = false)) ∧
      ∀ ws, tokenize wide t = ws ↔ ∃ layout : Layout, layout.words = ws ∧ layout.text = t := by
  refine ⟨fun limit => ?_, fun wide hwide => ?_⟩
  · rw [tokens_eq]
    rfl
  · rw [tokenize_of_length_le hwide]
    refine ⟨fun limit => rfl, fun w hw => isWord_of_mem_words hw, flatten_words t, ?_, fun ws => words_eq_iff⟩
    rintro before a b after rfl
    exact together_words_iff before after a b

end JobShell.Text
