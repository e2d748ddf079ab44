import JobShell.Proofs.Pipeline.Readable

/-! # The mark of a line

A mark asks for the background, and is meant to ask for nothing else. But white space at the end of a line is taken off,
and white space in front of a mark is not. Blanks make no difference there, as they belong to no word. White space of
another kind becomes a part of the last stage. -/

namespace JobShell

namespace Text

/-! ### White space behind words -/

theorem words_append_blanks {b : Text} (hb : ∀ c ∈ b, isBlank c = true) (t : Text) : words (t ++ b) = words t := by
  induction b generalizing t with
  | nil => rw [List.append_nil]
  | cons c b ih =>
    obtain ⟨hc, hb⟩ := List.forall_mem_cons.mp hb
    rw [List.append_cons, ih hb, words_append_singleton hc]

theorem trimStart_eq_nil_iff {t : Text} : trimStart t = [] ↔ ∀ c ∈ t, isWhiteSpace c = true :=
  List.dropWhile_eq_nil_iff

/-- White space at the end of a text does not change its words if it is made of blanks, or if there are no words. -/
theorem words_trimStart_rdropWhile {t : Text}
    (h : (∀ c ∈ t.rtakeWhile isWhiteSpace, isBlank c = true) ∨ ∀ c ∈ t, isWhiteSpace c = true) :
    words (trimStart (t.rdropWhile isWhiteSpace)) = words (trimStart t) := by
  by_cases ht : ∀ c ∈ t, isWhiteSpace c = true
  · rw [List.rdropWhile_eq_nil_iff.mpr ht, trimStart_eq_nil_iff.mpr ht]
    rfl
  · have hb := h.resolve_right ht
    have hne : trimStart (t.rdropWhile isWhiteSpace) ≠ [] := fun hnil => ht fun c hc => by
      rw [← List.rdropWhile_append_rtakeWhile (p := isWhiteSpace) (l := t)] at hc
      rcases List.mem_append.mp hc with hc | hc
      · exact trimStart_eq_nil_iff.mp hnil c hc
      · exact List.mem_rtakeWhile_imp hc
    conv_rhs => rw [← List.rdropWhile_append_rtakeWhile (p := isWhiteSpace) (l := t)]
    rw [trimStart, trimStart, List.dropWhile_append, if_neg (by simpa [trimStart] using hne), words_append_blanks hb]

theorem isSpace_rdropWhile (t : Text) : isSpace (t.rdropWhile isWhiteSpace) = isSpace t := by
  rw [isSpace, isSpace, Bool.eq_iff_iff, List.all_eq_true, List.all_eq_true, ← List.rdropWhile_eq_nil_iff,
    ← List.rdropWhile_eq_nil_iff, List.rdropWhile_idempotent]

end Text

namespace Stage

/-! ### Words that are read alike -/

/-- The words ask for the same stage, or no stage can be read from them for the same reason. -/
def Alike (ws vs : List Text) : Prop :=
  (∃ s, Asks ws s ∧ Asks vs s) ∨ (∃ d, EndsInOperator ws d ∧ EndsInOperator vs d) ∨
    (Bad ws ∧ Bad vs ∧ ∀ d, ¬EndsInOperator ws d ∧ ¬EndsInOperator vs d)

theorem ofWords_cases (ws : List Text) : (∃ s, Asks ws s ∧ ofWords ws = .ok s) ∨
    (∃ d, EndsInOperator ws d ∧ ofWords ws = .error (.missingTarget d.operator)) ∨
    (Bad ws ∧ (∀ d, ¬EndsInOperator ws d) ∧ ofWords ws = .error .emptyStage) := by
  by_cases hb : Bad ws
  · by_cases hd : ∃ d, EndsInOperator ws d
    · obtain ⟨d, hd⟩ := hd
      exact Or.inr (Or.inl ⟨d, hd, ofWords_of_endsInOperator hd⟩)
    · exact Or.inr (Or.inr ⟨hb, not_exists.mp hd, ofWords_of_bad hb (not_exists.mp hd)⟩)
  · obtain ⟨s, hs, hasks⟩ := ofWords_of_not_bad hb
    exact Or.inl ⟨s, hasks, hs⟩

theorem ofWords_eq_iff {ws vs : List Text} : ofWords ws = ofWords vs ↔ Alike ws vs := by
  constructor
  · intro h
    rcases ofWords_cases ws with ⟨s, hw, he⟩ | ⟨d, hw, he⟩ | ⟨hw, hw', he⟩
    · rw [he] at h
      exact Or.inl ⟨s, hw, ofWords_eq_ok_iff.mp h.symm⟩
    · rcases ofWords_cases vs with ⟨s, -, he'⟩ | ⟨d', hv, he'⟩ | ⟨-, -, he'⟩ <;> rw [he, he'] at h
      · cases h
      · have hd : d = d' := by
          cases d <;> cases d' <;> first | rfl | cases h
        exact Or.inr (Or.inl ⟨d, hw, hd ▸ hv⟩)
      · cases h
    · rcases ofWords_cases vs with ⟨s, -, he'⟩ | ⟨d', -, he'⟩ | ⟨hv, hv', -⟩
      · rw [he, he'] at h
        cases h
      · rw [he, he'] at h
        cases h
      · exact Or.inr (Or.inr ⟨hw, hv, fun d => ⟨hw' d, hv' d⟩⟩)
  · rintro (⟨s, hw, hv⟩ | ⟨d, hw, hv⟩ | ⟨hw, hv, hd⟩)
    · rw [ofWords_of_asks hw, ofWords_of_asks hv]
    · rw [ofWords_of_endsInOperator hw, ofWords_of_endsInOperator hv]
    · rw [ofWords_of_bad hw fun d => (hd d).1, ofWords_of_bad hv fun d => (hd d).2]

theorem exists_error_iff {ws : List Text} : (∃ f, ofWords ws = .error f) ↔ Bad ws := by
  refine ⟨fun ⟨f, hf⟩ => ?_, Pipeline.exists_ofWords_error⟩
  by_contra hb
  obtain ⟨s, hs, -⟩ := ofWords_of_not_bad hb
  rw [hs] at hf
  cases hf

end Stage

namespace Pipeline
open Text Stage

variable {limits : Limits} {line : Text} {p : Pipeline}

/-! ### The last segment -/

/-- What stands behind the last bar of a line. -/
def lastSegment (line : Text) : Text :=
  line.rtakeWhile (· != '|')

theorem bar_notMem_lastSegment (line : Text) : '|' ∉ lastSegment line := fun h => by
  simpa using List.mem_rtakeWhile_imp h

theorem eq_lastSegment (line : Text) : line = lastSegment line ∨ ∃ before, line = before ++ '|' :: lastSegment line := by
  have happend := List.rdropWhile_append_rtakeWhile (p := (· != '|')) (l := line)
  rcases List.eq_nil_or_concat (line.rdropWhile (· != '|')) with h | ⟨before, c, h⟩
  · rw [h] at happend
    exact Or.inl happend.symm
  · have hc : c = '|' := by
      have hlast := List.rdropWhile_last_not (· != '|') line (by simp [h])
      simpa [h] using hlast
    rw [h, hc, List.concat_eq_append, List.append_assoc] at happend
    exact Or.inr ⟨before, happend.symm⟩

/-- The white space at the end of a line is that of its last segment, and taking it off changes no other segment. -/
theorem exists_segments (line : Text) : ∃ before, before.length = line.count '|' ∧
    line.splitOn '|' = before ++ [lastSegment line] ∧
    (line.rdropWhile isWhiteSpace).splitOn '|' = before ++ [(lastSegment line).rdropWhile isWhiteSpace] ∧
    line.rtakeWhile isWhiteSpace = (lastSegment line).rtakeWhile isWhiteSpace := by
  have hbar := bar_notMem_lastSegment line
  have hbar' : '|' ∉ (lastSegment line).rdropWhile isWhiteSpace := fun h =>
    hbar ((rdropWhile_sublist _ _).subset h)
  rcases eq_lastSegment line with h | ⟨before, h⟩
  · rw [← h] at hbar hbar' ⊢
    exact ⟨[], (List.count_eq_zero.mpr hbar).symm, List.splitOn_eq_singleton hbar, List.splitOn_eq_singleton hbar', rfl⟩
  · generalize lastSegment line = last at *
    subst h
    refine ⟨before.splitOn '|', ?_, ?_, ?_, rtakeWhile_append_cons (by decide) _ _⟩
    · rw [length_splitOn, List.count_append, List.count_cons_self, List.count_eq_zero.mpr hbar]
    · rw [List.splitOn_append_cons_self, List.splitOn_eq_singleton hbar]
    · rw [rdropWhile_append_cons (by decide), List.splitOn_append_cons_self, List.splitOn_eq_singleton hbar']

/-! ### Lines with and without a mark -/

section
variable (hmark : isMarked line = false)
  (hspace : (∀ c ∈ line.rtakeWhile isWhiteSpace, isBlank c = true) ∨ (∀ c ∈ lastSegment line, isWhiteSpace c = true) ∨
    limits.stages ≤ line.count '|')
include hmark hspace

theorem looked_concat_mark : looked limits (line ++ ['&']) = looked limits line := by
  have hbody : body line = line.rdropWhile isWhiteSpace := by rw [body, hmark]; rfl
  obtain ⟨before, hlength, hline, htrimmed, hend⟩ := exists_segments line
  rw [looked_eq, looked_eq, body_concat, hbody, hline, htrimmed]
  by_cases hstages : limits.stages ≤ line.count '|'
  · rw [List.take_append_of_le_length (by omega), List.take_append_of_le_length (by omega)]
  · rw [hend] at hspace
    have hwords := words_trimStart_rdropWhile (hspace.imp_right (Or.resolve_right · hstages))
    rw [List.take_of_length_le (by simp; omega), List.take_of_length_le (by simp; omega)]
    simp only [List.map_append, List.map_cons, hwords]

theorem parse_concat_mark : parse limits (line ++ ['&']) = (parse limits line).map fun p => ⟨p.stages, true⟩ := by
  have hspace' : (body (line ++ ['&'])).isSpace = (body line).isSpace := by
    rw [body_concat, body, hmark, ← isSpace_rdropWhile line]
    rfl
  have hasking : asking limits (line ++ ['&']) = asking limits line := by
    rw [asking, asking, hspace', looked_concat_mark hmark hspace]
  rw [parse_eq_asking, parse_eq_asking, hasking, isMarked_concat]
  cases (asking limits line).mapM ofWords <;> rfl

end

/-- The words of a segment that the limits let through. -/
def segmentWords (limits : Limits) (segment : Text) : List Text :=
  (words (trimStart segment)).take limits.words

/-- The mark is in front of the white space at the end of the line, and so that belongs to the last segment. -/
theorem parse_concat_mark_iff (hmark : isMarked line = false) :
    parse limits (line ++ ['&']) = (parse limits line).map (fun p => ⟨p.stages, true⟩) ↔
      limits.stages ≤ line.count '|' ∨
      (∃ segment ∈ (line.splitOn '|').dropLast, Bad (segmentWords limits segment)) ∨
      Alike (segmentWords limits (lastSegment line))
        (segmentWords limits ((lastSegment line).rdropWhile isWhiteSpace)) := by
  have hbody : body line = line.rdropWhile isWhiteSpace := by rw [body, hmark]; rfl
  have hreads : parse limits (line ++ ['&']) = (parse limits line).map (fun p => ⟨p.stages, true⟩) ↔
      (asking limits (line ++ ['&'])).mapM ofWords = (asking limits line).mapM ofWords := by
    rw [parse_eq_asking, parse_eq_asking, isMarked_concat]
    cases (asking limits (line ++ ['&'])).mapM ofWords <;> cases (asking limits line).mapM ofWords <;> simp [Except.map]
  obtain ⟨before, hlength, hline, htrimmed, -⟩ := exists_segments line
  by_cases hstages : limits.stages ≤ line.count '|'
  · exact iff_of_true (parse_concat_mark hmark (Or.inr (Or.inr hstages))) (Or.inl hstages)
  · by_cases hspace : ∀ c ∈ lastSegment line, isWhiteSpace c = true
    · refine iff_of_true (parse_concat_mark hmark (Or.inr (Or.inl hspace))) (Or.inr (Or.inr (ofWords_eq_iff.mp ?_)))
      rw [segmentWords, segmentWords, words_trimStart_rdropWhile (Or.inr hspace)]
    · have hnot : line.isSpace = false := by
        rw [isSpace, Bool.eq_false_iff, ne_eq, List.all_eq_true]
        exact fun hall => hspace fun c hc => hall c ((List.rtakeWhile_suffix _ _).subset hc)
      have hmarked : asking limits (line ++ ['&']) = before.map (segmentWords limits) ++
          [segmentWords limits (lastSegment line)] := by
        rw [asking, body_concat, hnot, looked_eq, body_concat, hline, List.take_of_length_le (by simp; omega),
          List.map_append]
        rfl
      have hunmarked : asking limits line = before.map (segmentWords limits) ++
          [segmentWords limits ((lastSegment line).rdropWhile isWhiteSpace)] := by
        rw [asking, hbody, isSpace_rdropWhile, hnot, looked_eq, hbody, htrimmed,
          List.take_of_length_le (by simp; omega), List.map_append]
        rfl
      have hbefore : (line.splitOn '|').dropLast = before := by rw [hline, List.dropLast_concat]
      rw [hreads, hmarked, hunmarked, mapM_concat_eq_iff, ofWords_eq_iff, hbefore]
      simp only [List.mem_map, exists_exists_and_eq_and, exists_error_iff, hstages, false_or]

/-- White space at the end of a line is not looked at. -/
theorem parse_rdropWhile (limits : Limits) (line : Text) :
    parse limits (line.rdropWhile isWhiteSpace) = parse limits line := by
  have hsplit : splitMark (line.rdropWhile isWhiteSpace) = splitMark line := by
    rw [splitMark, splitMark, trimEnd_eq_rdropWhile, trimEnd_eq_rdropWhile, List.rdropWhile_idempotent]
  rw [parse, parse, hsplit]

/-- A mark changes nothing but the background in these cases and in no others: the last segment is cut off, or a segment
in front of it cannot be read, or the words of the last segment ask for the same with the white space at its end and
without it. They do if this white space is made of blanks or has no word of the segment in front of it. -/
theorem parse_mark (hmark : (line.rdropWhile isWhiteSpace).getLast? ≠ some '&') :
    (parse limits (line ++ ['&']) = (parse limits line).map (fun p => ⟨p.stages, true⟩) ↔
      limits.stages ≤ line.count '|' ∨
      (∃ segment ∈ (line.splitOn '|').dropLast, Bad (segmentWords limits segment)) ∨
      Alike (segmentWords limits (lastSegment line))
        (segmentWords limits ((lastSegment line).rdropWhile isWhiteSpace))) ∧
    ((∀ c ∈ line.rtakeWhile isWhiteSpace, isBlank c = true) ∨ (∀ c ∈ lastSegment line, isWhiteSpace c = true) ∨
      limits.stages ≤ line.count '|' →
        parse limits (line ++ ['&']) = (parse limits line).map (fun p => ⟨p.stages, true⟩)) ∧
    ∀ p, parse limits line = .ok p → p.background = false := by
  have hunmarked : isMarked line = false := beq_eq_false_iff_ne.mpr hmark
  exact ⟨parse_concat_mark_iff hunmarked, parse_concat_mark hunmarked,
    fun p hp => (parse_eq_ok_iff.mp hp).2.trans hunmarked⟩

theorem parse_mark_blanks : ("sort < in | uniq \t".toList.rdropWhile isWhiteSpace).getLast? ≠ some '&' ∧
    (∀ c ∈ "sort < in | uniq \t".toList.rtakeWhile isWhiteSpace, isBlank c = true) ∧
    parse {} "sort < in | uniq \t&".toList =
      .ok ⟨[⟨["sort".toList], some "in".toList, none, by simp⟩, ⟨["uniq".toList], none, none, by simp⟩], true⟩ := by
  have hmark : ("sort < in | uniq \t".toList.rdropWhile isWhiteSpace).getLast? ≠ some '&' := by decide
  have hblank : ∀ c ∈ "sort < in | uniq \t".toList.rtakeWhile isWhiteSpace, isBlank c = true := by
    rw [show "sort < in | uniq \t".toList.rtakeWhile isWhiteSpace = [' ', '\t'] by decide]
    simp [isBlank]
  have hread : parse {} "sort < in | uniq \t".toList =
      .ok ⟨[⟨["sort".toList], some "in".toList, none, by simp⟩, ⟨["uniq".toList], none, none, by simp⟩], false⟩ := by
    decide +kernel
  exact ⟨hmark, hblank, ((@parse_mark {} _ hmark).2.1 (Or.inl hblank)).trans (congrArg _ hread)⟩

/-- An em space in front of a mark is an argument, and without the mark it is not there. -/
theorem parse_mark_emSpace : ("ls \u2003".toList.rdropWhile isWhiteSpace).getLast? ≠ some '&' ∧
    parse {} "ls \u2003".toList = .ok ⟨[⟨["ls".toList], none, none, by simp⟩], false⟩ ∧
    parse {} ("ls \u2003".toList ++ ['&']) =
      .ok ⟨[⟨["ls".toList, "\u2003".toList], none, none, by simp⟩], true⟩ :=
  ⟨by decide, by decide +kernel, by decide +kernel⟩

end Pipeline

end JobShell
