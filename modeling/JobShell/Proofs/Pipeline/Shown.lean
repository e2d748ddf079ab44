import JobShell.Proofs.Pipeline.Mark
import Mathlib.Data.List.Flatten

/-! # Reading what is shown

What is shown of a pipeline is read as its stages again, unless its last character is taken for a mark or for white space
at the end of a line. Then it is read as something else: reading leaves characters out and makes none up, so that a
character that is gone from the line is missed in what is read. -/

namespace JobShell

namespace Text

/-- A character that a word may have in it. -/
def isInk (c : Char) : Bool :=
  !isBlank c && c != '|'

theorem filter_join {q : Char → Bool} {separator : Text} (h : separator.filter q = []) (ts : List Text) :
    (join separator ts).filter q = ts.flatten.filter q := by
  induction ts with
  | nil => rfl
  | cons t ts ih =>
    cases ts with
    | nil => simp [join, List.intercalate]
    | cons u ts =>
      simp only [join, List.intercalate, List.intersperse_cons_cons, List.flatten_cons, List.filter_append] at ih ⊢
      rw [h, ih, List.nil_append]

theorem exists_join_concat (separator : Text) (ts : List Text) (t : Text) :
    ∃ front, join separator (ts ++ [t]) = front ++ t := by
  induction ts with
  | nil => exact ⟨[], by simp [join, List.intercalate]⟩
  | cons u ts ih =>
    obtain ⟨front, hfront⟩ := ih
    refine ⟨u ++ separator ++ front, ?_⟩
    rw [List.append_assoc, ← hfront]
    cases ts <;> simp [join, List.intercalate]

theorem flatten_sublist_flatten {ts us : List Text} (h : List.Forall₂ List.Sublist ts us) :
    ts.flatten.Sublist us.flatten := by
  induction h with
  | nil => exact List.Sublist.refl _
  | cons ht _ ih => exact ht.append ih

end Text

/-! ### Reading leaves out -/

theorem Text.flatten_take_words_sublist (limit : Nat) (t : Text) :
    ((words (trimStart t)).take limit).flatten.Sublist t := by
  have hwords : (words (trimStart t)).flatten.Sublist (trimStart t) := by
    rw [flatten_words]
    exact List.filter_sublist
  exact ((List.take_sublist _ _).flatten.trans hwords).trans (List.dropWhile_sublist _)

namespace Stage
open Text

theorem exists_words_of_asks {ws : List Text} {s : Stage} (h : Asks ws s) :
    ∃ rest, ws = s.args ++ s.redirectWords ++ rest := by
  rcases h with ⟨rfl, -, hi, ho⟩ | ⟨d, target, rest, rfl, -, hi, ho⟩
  · exact ⟨[], by simp [redirectWords, hi, ho]⟩
  · exact ⟨rest, by cases d <;> simp [redirectWords, hi, ho, Direction.operator]⟩

theorem filter_text_sublist {ws : List Text} {s : Stage} (h : Asks ws s) :
    (s.text.filter isInk).Sublist ws.flatten := by
  obtain ⟨rest, rfl⟩ := exists_words_of_asks h
  rw [text_eq_join, filter_join rfl]
  exact List.filter_sublist.trans (List.sublist_append_left _ _).flatten

end Stage

namespace Pipeline
open Text Stage

variable {limits : Limits} {line : Text} {p : Pipeline}

/-- What stages are read from is in the line. -/
theorem flatten_asking_sublist (limits : Limits) (line : Text) :
    ((asking limits line).map List.flatten).flatten.Sublist line := by
  unfold asking
  split
  · exact List.nil_sublist _
  · have hsegments : List.Forall₂ List.Sublist ((looked limits line).map List.flatten)
        (((body line).splitOn '|').take limits.stages) := by
      rw [looked_eq, List.map_map, List.forall₂_map_left_iff, List.forall₂_same]
      exact fun segment _ => flatten_take_words_sublist limits.words segment
    exact (flatten_sublist_flatten hsegments).trans <| (List.take_sublist _ _).flatten.trans <|
      (flatten_splitOn_sublist _ _).trans (body_sublist line)

/-- Blanks and bars apart, what is shown of a pipeline was in the line that it was read from. -/
theorem filter_text_sublist (h : parse limits line = .ok p) : (p.text.filter isInk).Sublist line := by
  have hread := mapM_eq_ok_iff.mp (parse_eq_ok_iff.mp h).1
  have hstages : List.Forall₂ List.Sublist (p.stages.map fun s => s.text.filter isInk)
      ((asking limits line).map List.flatten) := by
    rw [List.forall₂_map_left_iff, List.forall₂_map_right_iff]
    exact (hread.imp fun ws s hws => Stage.filter_text_sublist (ofWords_eq_ok_iff.mp hws)).flip
  have htext : p.text.filter isInk = (p.stages.map fun s => s.text.filter isInk).flatten := by
    rw [text, filter_join rfl, List.filter_flatten, List.map_map]
    rfl
  rw [htext]
  exact (flatten_sublist_flatten hstages).trans (flatten_asking_sublist limits line)

/-! ### The last character -/

theorem exists_text_concat (h : p.IsReadable limits) (hne : p.stages ≠ []) :
    ∃ front c, p.text = front ++ [c] ∧ isInk c = true := by
  obtain ⟨ss, s, hs⟩ := (List.eq_nil_or_concat p.stages).resolve_left hne
  have hreadable : s.IsReadable limits.words := h.stages s (by simp [hs])
  obtain ⟨ws, w, hws⟩ := (List.eq_nil_or_concat (s.args ++ s.redirectWords)).resolve_left (by simp [s.args_ne_nil])
  obtain ⟨hw, hplain⟩ := isPlain_of_mem hreadable w (by simp [hws])
  obtain ⟨t, c, rfl⟩ := (List.eq_nil_or_concat w).resolve_left hw
  obtain ⟨front, hfront⟩ := exists_join_concat [' ', '|', ' '] (ss.map Stage.text) s.text
  obtain ⟨front', hfront'⟩ := exists_join_concat [' '] ws (t.concat c)
  refine ⟨front ++ front' ++ t, c, ?_, ?_⟩
  · calc p.text = front ++ s.text := by rw [text, hs, List.concat_eq_append, List.map_append, List.map_singleton, hfront]
      _ = front ++ (front' ++ t.concat c) := by rw [text_eq_join, hws, List.concat_eq_append, hfront']
      _ = front ++ front' ++ t ++ [c] := by simp
  · obtain ⟨hblank, hbar⟩ := hplain c (by simp)
    simp [isInk, hblank, hbar]

/-- White space at the end of what is shown is not read again. -/
theorem isWhiteSpace_of_parse_text {front : Text} {c : Char} (htext : p.text = front ++ [c]) (hink : isInk c = true)
    (h : parse limits p.text = .ok ⟨p.stages, false⟩) : isWhiteSpace c = false := by
  by_contra hspace
  have hread : parse limits (p.text.rdropWhile isWhiteSpace) = .ok ⟨p.stages, false⟩ :=
    (parse_rdropWhile limits p.text).trans h
  have hsub : (p.text.filter isInk).Sublist (p.text.rdropWhile isWhiteSpace) :=
    @filter_text_sublist limits _ ⟨p.stages, false⟩ hread
  rw [htext, List.rdropWhile_concat_pos _ _ _ (by simpa using hspace)] at hsub
  have hfront : ((front ++ [c]).filter isInk).Sublist (front.filter isInk) := by
    simpa only [List.filter_filter, Bool.and_self] using (hsub.trans (rdropWhile_sublist _ _)).filter isInk
  have hlength := hfront.length_le
  have hc : ([c].filter isInk).length = 1 := by simp [hink]
  rw [List.filter_append, List.length_append] at hlength
  omega

/-- What is shown of a pipeline that was read is read as the same stages again, in the foreground, if and only if it ends
neither in a mark nor in white space. -/
theorem parse_text_iff (h : parse limits line = .ok p) (hne : p.stages ≠ []) :
    parse limits p.text = .ok ⟨p.stages, false⟩ ↔
      ∀ c, p.text.getLast? = some c → c ≠ '&' ∧ isWhiteSpace c = false := by
  have hreadable : p.IsReadable limits := isReadable_of_parse h hne
  obtain ⟨front, c, htext, hink⟩ := exists_text_concat hreadable hne
  have hlast : p.text.getLast? = some c := by rw [htext, List.getLast?_concat]
  constructor
  · intro hread c' hc'
    obtain rfl : c = c' := Option.some.inj (hlast.symm.trans hc')
    refine ⟨?_, isWhiteSpace_of_parse_text htext hink hread⟩
    rintro rfl
    have hbackground := (parse_eq_ok_iff.mp hread).2
    rw [htext, isMarked_concat] at hbackground
    cases hbackground
  · intro hend
    obtain ⟨hmark, hspace⟩ := hend c hlast
    -- A blank more at the end changes nothing, and with a mark behind it the stages are known.
    have htrim : (p.text ++ [' ']).rdropWhile isWhiteSpace = p.text := by
      rw [List.rdropWhile_concat_pos _ _ _ (by decide), htext, List.rdropWhile_concat_neg _ _ _ (by simp [hspace])]
    have hunmarked : isMarked (p.text ++ [' ']) = false := by
      rw [isMarked, htrim, hlast]
      simpa using hmark
    have hblank : ∀ b ∈ (p.text ++ [' ']).rtakeWhile isWhiteSpace, isBlank b = true := by
      rw [List.rtakeWhile_concat_pos _ _ _ (by decide), htext, List.rtakeWhile_concat_neg _ _ _ (by simp [hspace])]
      simp [isBlank]
    have hmarked : parse limits ((p.text ++ [' ']) ++ ['&']) = .ok ⟨p.stages, true⟩ := by
      rw [List.append_assoc]
      exact @parse_text limits ⟨p.stages, true⟩ ⟨hreadable.count, hreadable.stages⟩ hne rfl
    rw [parse_concat_mark hunmarked (Or.inl hblank)] at hmarked
    obtain ⟨⟨stages, background⟩, hread, hstages⟩ := map_eq_ok_iff.mp hmarked
    obtain rfl : background = false := (parse_eq_ok_iff.mp hread).2.trans hunmarked
    obtain rfl : stages = p.stages := congrArg Pipeline.stages hstages
    rw [← parse_rdropWhile, htrim] at hread
    exact hread

theorem parse_text_iff_droppedWord :
    parse {} "cat < a b | wc -l &".toList = .ok ⟨[⟨["cat".toList], some "a".toList, none, by simp⟩,
      ⟨["wc".toList, "-l".toList], none, none, by simp⟩], true⟩ ∧
    parse {} "cat < a | wc -l".toList = .ok ⟨[⟨["cat".toList], some "a".toList, none, by simp⟩,
      ⟨["wc".toList, "-l".toList], none, none, by simp⟩], false⟩ := by
  have h : parse {} "cat < a b | wc -l &".toList = .ok ⟨[⟨["cat".toList], some "a".toList, none, by simp⟩,
      ⟨["wc".toList, "-l".toList], none, none, by simp⟩], true⟩ := by decide +kernel
  refine ⟨h, (parse_text_iff h (List.cons_ne_nil _ _)).mpr fun c hc => ?_⟩
  obtain rfl : 'l' = c := Option.some.inj hc
  decide

end Pipeline

end JobShell
