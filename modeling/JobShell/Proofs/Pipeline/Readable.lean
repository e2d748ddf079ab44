import JobShell.Proofs.Pipeline.Reading

/-! # Which pipelines a line is read as

The pipelines that some line is read as are described here by their words alone. Each of them has a text of its
own: what is shown of it, with a mark behind it, is read as this pipeline again. -/

namespace JobShell
open Text

/-- A text that can be a word of a line: it is not empty and has neither blanks nor bars. -/
def Text.IsPlain (w : Text) : Prop :=
  w ≠ [] ∧ ∀ c ∈ w, isBlank c = false ∧ c ≠ '|'

/-- A stage that can be read from `limit` words. -/
structure Stage.IsReadable (limit : Nat) (s : Stage) : Prop where
  args : ∀ w ∈ s.args, w.IsPlain ∧ IsArgument w
  input : ∀ w, s.input = some w → w.IsPlain
  output : ∀ w, s.output = some w → w.IsPlain
  name : ∀ c cs, s.name = c :: cs → isWhiteSpace c = false
  one : s.input = none ∨ s.output = none
  count : s.args.length + (if s.input = none ∧ s.output = none then 0 else 2) ≤ limit

/-- A pipeline that can be read under limits. -/
structure Pipeline.IsReadable (limits : Limits) (p : Pipeline) : Prop where
  count : p.stages.length ≤ limits.stages
  stages : ∀ s ∈ p.stages, s.IsReadable limits.words

/-! ### What is read is readable -/

namespace Stage

theorem name_eq_head {s : Stage} {w : Text} {ws : List Text} (h : s.args = w :: ws) : s.name = w := by
  simp [name, h]

/-- The stage of a segment, which has no bar in it. -/
theorem isReadable_of_asks {limit : Nat} {t : Text} (ht : '|' ∉ t) {s : Stage}
    (h : Asks (tokenize limit (trimStart t)) s) : s.IsReadable limit := by
  have plain : ∀ w ∈ tokenize limit (trimStart t), w.IsPlain := by
    intro w hw
    obtain ⟨hne, hb, hm⟩ := mem_words ((List.take_sublist _ _).subset hw)
    exact ⟨hne, fun c hc => ⟨hb c hc, fun h' => ht (mem_of_mem_trimStart (h' ▸ hm c hc))⟩⟩
  have count : (tokenize limit (trimStart t)).length ≤ limit := List.length_take_le _ _
  -- The name is the first word, which begins where the white space ends.
  have name : ∀ c cs rest, tokenize limit (trimStart t) = (c :: cs) :: rest → isWhiteSpace c = false := by
    intro c cs rest hw
    rcases hts : trimStart t with _ | ⟨a, as⟩
    · simp [hts, tokenize, words_nil] at hw
    · have ha := head_trimStart hts
      obtain ⟨w, ws, hws⟩ := words_head (isBlank_of_not_isWhiteSpace ha) as
      rw [hts, tokenize, hws] at hw
      cases limit with
      | zero => simp at hw
      | succ n =>
        simp only [List.take_succ_cons, List.cons.injEq] at hw
        exact hw.1.1 ▸ ha
  obtain ⟨a, as, ha⟩ := List.exists_cons_of_ne_nil s.args_ne_nil
  rcases h with ⟨hws, harg, hi, ho⟩ | ⟨d, target, rest, hws, harg, hi, ho⟩
  · refine ⟨fun w hw => ⟨plain w (hws ▸ hw), harg w hw⟩, by simp [hi], by simp [ho], ?_, Or.inl hi, ?_⟩
    · intro c cs hn
      rw [name_eq_head ha] at hn
      exact name c cs as (by rw [hws, ha, hn])
    · simpa [hi, ho, ← hws] using count
  · have htarget : target.IsPlain := plain target (by simp [hws])
    refine ⟨fun w hw => ⟨plain w (by simp [hws, hw]), harg w hw⟩, ?_, ?_, ?_, ?_, ?_⟩
    · intro w hw
      cases d <;> simp_all
    · intro w hw
      cases d <;> simp_all
    · intro c cs hn
      rw [name_eq_head ha] at hn
      exact name c cs _ (by rw [hws, ha, hn, List.cons_append])
    · cases d
      · exact Or.inr (by simp [ho])
      · exact Or.inl (by simp [hi])
    · have hlen := congrArg List.length hws
      simp only [List.length_append, List.length_cons] at hlen
      split <;> omega

end Stage

theorem Pipeline.isReadable_of_parse {limits : Limits} {line : Text} {p : Pipeline}
    (h : parse limits line = .ok p) (hne : p.stages ≠ []) : p.IsReadable limits := by
  cases hs : (body line).isSpace with
  | true =>
    rw [parse_of_isSpace hs] at h
    cases h
    exact absurd rfl hne
  | false =>
    rw [parse_eq_mapM hs, ← mapM_segments] at h
    cases hm : ((body line).segments.take limits.stages).mapM fun s => Stage.parse limits.words s.trimStart with
    | error f =>
      rw [hm] at h
      cases h
    | ok stages =>
      rw [hm] at h
      cases h
      refine ⟨(mapM_eq_ok_iff.mp hm).length_eq ▸ List.length_take_le _ _, fun s hs' => ?_⟩
      obtain ⟨segment, hseg, hasks⟩ := exists_of_mapM_ok hm hs'
      have hbar := bar_notMem_segment ((List.take_sublist _ _).subset hseg)
      rw [Stage.parse_eq_ofWords, Stage.ofWords_eq_ok_iff] at hasks
      exact Stage.isReadable_of_asks hbar hasks

/-! ### What is readable is read from its text -/

namespace Stage

/-- The words behind the arguments. -/
def redirectWords (s : Stage) : List Text :=
  (s.input.elim [] fun target => [['<'], target]) ++ s.output.elim [] fun target => [['>'], target]

theorem join_append {ws vs : List Text} (hw : ws ≠ []) (hv : vs ≠ []) :
    join [' '] (ws ++ vs) = join [' '] ws ++ ' ' :: join [' '] vs := by
  induction ws with
  | nil => exact absurd rfl hw
  | cons w ws ih =>
    cases ws with
    | nil =>
      obtain ⟨v, vs, rfl⟩ := List.exists_cons_of_ne_nil hv
      simp [join, List.intercalate]
    | cons u ws =>
      have := ih (List.cons_ne_nil u ws)
      simp only [join, List.intercalate, List.cons_append, List.intersperse_cons_cons, List.flatten_cons] at this ⊢
      simp [this]

/-- A stage is shown by its words. -/
theorem text_eq_join (s : Stage) : s.text = join [' '] (s.args ++ s.redirectWords) := by
  obtain ⟨args, input, output, hargs⟩ := s
  cases input <;> cases output
  · simp [text, redirectWords, showRedirect]
  all_goals
    simp only [redirectWords, Option.elim]
    rw [join_append hargs (by simp)]
    simp [text, showRedirect, join, List.intercalate, Direction.operator]

variable {limit : Nat} {s : Stage}

theorem asks_of_isReadable (h : s.IsReadable limit) : Asks (s.args ++ s.redirectWords) s := by
  have hargs := fun w hw => (h.args w hw).2
  cases hi : s.input with
  | none =>
    cases ho : s.output with
    | none => exact Or.inl ⟨by simp [redirectWords, hi, ho], hargs, hi, ho⟩
    | some target =>
      exact Or.inr ⟨.output, target, [], by simp [redirectWords, hi, ho, Direction.operator], hargs, by simp [hi],
        by simp [ho]⟩
  | some target =>
    have ho : s.output = none := by
      rcases h.one with hn | hn
      · rw [hi] at hn
        cases hn
      · exact hn
    exact Or.inr ⟨.input, target, [], by simp [redirectWords, hi, ho, Direction.operator], hargs, by simp [hi],
      by simp [ho]⟩

theorem isPlain_of_mem (h : s.IsReadable limit) : ∀ w ∈ s.args ++ s.redirectWords, w.IsPlain := by
  have hop : ∀ d : Direction, Text.IsPlain d.operator := fun d => by
    cases d <;> exact ⟨by simp [Direction.operator], by simp [Direction.operator, isBlank]⟩
  intro w hw
  rcases List.mem_append.mp hw with hw | hw
  · exact (h.args w hw).1
  · rcases List.mem_append.mp hw with hw | hw
    · cases hi : s.input with
      | none => simp [hi] at hw
      | some target =>
        simp only [hi, Option.elim, List.mem_cons, List.not_mem_nil, or_false] at hw
        rcases hw with rfl | rfl
        · exact hop .input
        · exact h.input w hi
    · cases ho : s.output with
      | none => simp [ho] at hw
      | some target =>
        simp only [ho, Option.elim, List.mem_cons, List.not_mem_nil, or_false] at hw
        rcases hw with rfl | rfl
        · exact hop .output
        · exact h.output w ho

theorem length_words_le (h : s.IsReadable limit) : (s.args ++ s.redirectWords).length ≤ limit := by
  have := h.count
  rcases h.one with hn | hn
  · cases ho : s.output <;> simp [redirectWords, hn, ho] at this ⊢ <;> omega
  · cases hi : s.input <;> simp [redirectWords, hn, hi] at this ⊢ <;> omega

theorem words_text (h : s.IsReadable limit) : words s.text = s.args ++ s.redirectWords := by
  rw [text_eq_join, words_join]
  exact fun w hw => ⟨(isPlain_of_mem h w hw).1, fun c hc => ((isPlain_of_mem h w hw).2 c hc).1⟩

theorem mem_join {ws : List Text} {separator : Text} {c : Char} (h : c ∈ join separator ws) :
    c ∈ separator ∨ ∃ w ∈ ws, c ∈ w := by
  induction ws with
  | nil => simp [join, List.intercalate] at h
  | cons w ws ih =>
    cases ws with
    | nil =>
      simp only [join, List.intercalate, List.intersperse_singleton, List.flatten_singleton] at h
      exact Or.inr ⟨w, List.mem_cons_self, h⟩
    | cons u ws =>
      simp only [join, List.intercalate, List.intersperse_cons_cons, List.flatten_cons, List.mem_append] at h ih
      rcases h with h | h | h
      · exact Or.inr ⟨w, List.mem_cons_self, h⟩
      · exact Or.inl h
      · rcases ih h with h | ⟨v, hv, hc⟩
        · exact Or.inl h
        · exact Or.inr ⟨v, List.mem_cons_of_mem w hv, hc⟩

theorem bar_notMem_text (h : s.IsReadable limit) : '|' ∉ s.text := by
  intro hb
  rw [text_eq_join] at hb
  rcases mem_join hb with hb | ⟨w, hw, hb⟩
  · simp at hb
  · exact ((isPlain_of_mem h w hw).2 _ hb).2 rfl

/-- A stage is shown from its name on, and so without white space in front. -/
theorem exists_text_eq_cons (h : s.IsReadable limit) : ∃ c cs, s.text = c :: cs ∧ isWhiteSpace c = false := by
  obtain ⟨a, as, ha⟩ := List.exists_cons_of_ne_nil s.args_ne_nil
  obtain ⟨c, cs, rfl⟩ := List.exists_cons_of_ne_nil (h.args a (by simp [ha])).1.1
  refine ⟨c, ?_, ?_, h.name c cs (name_eq_head ha)⟩
  · exact (s.text).tail
  · cases as <;> simp [text, ha, join, List.intercalate]

/-- The segment of a stage has one blank behind it, and may have one in front. -/
theorem tokenize_segment (h : s.IsReadable limit) :
    tokenize limit (trimStart (s.text ++ [' '])) = s.args ++ s.redirectWords ∧
      trimStart (' ' :: s.text ++ [' ']) = trimStart (s.text ++ [' ']) := by
  refine ⟨?_, trimStart_space rfl _⟩
  obtain ⟨c, cs, ht, hc⟩ := exists_text_eq_cons h
  have htrim : trimStart (s.text ++ [' ']) = s.text ++ [' '] := by rw [ht, List.cons_append, trimStart_cons hc]
  rw [htrim, tokenize, words_append_singleton rfl, words_text h, List.take_of_length_le (length_words_le h)]

end Stage

/-- Joined texts without bars are the segments that they are joined of, with blanks around them. -/
theorem Text.segments_join {t : Text} {ts : List Text} (h : ∀ u ∈ t :: ts, '|' ∉ u) :
    segments (join [' ', '|', ' '] (t :: ts) ++ [' ']) = (t ++ [' ']) :: ts.map fun u => ' ' :: u ++ [' '] := by
  induction ts generalizing t with
  | nil =>
    have ht := h t List.mem_cons_self
    simpa [join, List.intercalate] using segments_of_notMem (t := t ++ [' ']) (by simpa using ht)
  | cons u ts ih =>
    obtain ⟨ht, hu⟩ := List.forall_mem_cons.mp h
    have hjoin : join [' ', '|', ' '] (t :: u :: ts) ++ [' '] =
        (t ++ [' ']) ++ '|' :: (join [' ', '|', ' '] ((' ' :: u) :: ts) ++ [' ']) := by
      cases ts <;> simp [join, List.intercalate]
    have hu' : ∀ v ∈ (' ' :: u) :: ts, '|' ∉ v := by
      obtain ⟨hu, hts⟩ := List.forall_mem_cons.mp hu
      exact List.forall_mem_cons.mpr ⟨by simpa using hu, hts⟩
    -- The blank behind the bar belongs to the text after it.
    rw [hjoin, segments_append_bar (by simpa using ht), ih hu', List.map_cons]

namespace Pipeline
open Stage

variable {limits : Limits} {p : Pipeline}

theorem isMarked_concat (t : Text) : isMarked (t ++ ['&']) = true := by
  rw [isMarked, ← trimEnd_eq_rdropWhile, trimEnd_concat rfl]
  simp

theorem body_concat (t : Text) : body (t ++ ['&']) = t := by
  rw [body, isMarked_concat, if_pos rfl, ← trimEnd_eq_rdropWhile, trimEnd_concat rfl, List.dropLast_concat]

theorem mapM_text (h : p.IsReadable limits) (hne : p.stages ≠ []) :
    ((segments (p.text ++ [' '])).take limits.stages).mapM (fun s => Stage.parse limits.words s.trimStart) =
      .ok p.stages := by
  obtain ⟨s, ss, hs⟩ := List.exists_cons_of_ne_nil hne
  have hall : ∀ u ∈ s :: ss, u.IsReadable limits.words := hs ▸ h.stages
  have hbar : ∀ t ∈ s.text :: ss.map Stage.text, '|' ∉ t := by
    intro t ht
    obtain ⟨u, hu, rfl⟩ := List.mem_map.mp (show t ∈ (s :: ss).map Stage.text from ht)
    exact bar_notMem_text (hall u hu)
  have hread : ∀ u ∈ s :: ss, Stage.parse limits.words (trimStart (u.text ++ [' '])) = .ok u := fun u hu => by
    rw [parse_eq_ofWords, (tokenize_segment (hall u hu)).1, ofWords_of_asks (asks_of_isReadable (hall u hu))]
  have hcount := h.count
  rw [text, hs, List.map_cons, segments_join hbar, List.take_of_length_le (by simpa [hs] using hcount),
    mapM_eq_ok_iff, List.forall₂_cons]
  refine ⟨hread s List.mem_cons_self, ?_⟩
  rw [List.map_map, List.forall₂_map_left_iff, List.forall₂_same]
  intro u hu
  rw [Function.comp_apply, (tokenize_segment (hall u (List.mem_cons_of_mem s hu))).2]
  exact hread u (List.mem_cons_of_mem s hu)

theorem parse_text (h : p.IsReadable limits) (hne : p.stages ≠ []) (hbg : p.background = true) :
    parse limits (p.text ++ [' ', '&']) = .ok p := by
  have hline : p.text ++ [' ', '&'] = (p.text ++ [' ']) ++ ['&'] := by simp
  have hspace : (body ((p.text ++ [' ']) ++ ['&'])).isSpace = false := by
    rw [body_concat]
    obtain ⟨s, ss, hs⟩ := List.exists_cons_of_ne_nil hne
    obtain ⟨c, cs, ht, hc⟩ := exists_text_eq_cons (h.stages s (by simp [hs]))
    have hmem : c ∈ p.text ++ [' '] := by
      rw [text, hs, List.map_cons, ht]
      cases ss <;> simp [join, List.intercalate]
    rw [isSpace, List.all_eq_false]
    exact ⟨c, hmem, by simp [hc]⟩
  rw [hline, parse_eq_mapM hspace, ← mapM_segments, body_concat, mapM_text h hne, isMarked_concat, ← hbg]
  rfl

/-- The pipelines in the background that lines are read as, and a line for each of them. -/
theorem parse_image (hbg : p.background = true) (hne : p.stages ≠ []) :
    ((∃ line, parse limits line = .ok p) ↔ p.IsReadable limits) ∧
      (p.IsReadable limits → parse limits (p.text ++ [' ', '&']) = .ok p) :=
  ⟨⟨fun ⟨_, h⟩ => isReadable_of_parse h hne, fun h => ⟨_, parse_text h hne hbg⟩⟩,
    fun h => parse_text h hne hbg⟩

/-- A target may be an operator, and a word may hold white space and end in a mark. -/
def operatorTarget : Pipeline where
  stages := [⟨["cat".toList, "\u2003a&".toList], some "<".toList, none, by simp⟩,
    ⟨["wc".toList], none, some "b&".toList, by simp⟩]
  background := true

theorem parse_image_operatorTarget : operatorTarget.background = true ∧ operatorTarget.stages ≠ [] ∧
    operatorTarget.IsReadable {} ∧ parse {} "cat \u2003a& < < | wc > b& &".toList = .ok operatorTarget := by
  have hne : operatorTarget.stages ≠ [] := by simp [operatorTarget]
  obtain ⟨himage, htext⟩ := @parse_image {} operatorTarget rfl hne
  have hr := himage.mp ⟨"cat \u2003a& < < | wc > b& &".toList, by decide +kernel⟩
  exact ⟨rfl, hne, hr, htext hr⟩

end Pipeline

end JobShell
