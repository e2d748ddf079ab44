import JobShell.Proofs.Pipeline.Reading
import Mathlib.Data.List.Count

/-! # What limits leave of a line

The limit on stages cuts off the end of a pipeline: what is left is read as before, and the mark stays where it was. The
limit on words is less careful. It cuts a stage before its redirection is looked for, and a stage that is cut right
behind its operator has lost its target and cannot be read. -/

namespace JobShell

namespace Pipeline
open Text Stage

variable {line : Text} {p : Pipeline} {f : Failure} {m n limit : Nat}

/-! ### The limit on stages -/

/-- Bars are neither white space nor a mark, so the end of a line is the end of what is behind them. -/
theorem isMarked_append_bar (before after : Text) : isMarked (before ++ '|' :: after) = isMarked after := by
  unfold isMarked
  rw [rdropWhile_append_cons (by decide)]
  by_cases hne : after.rdropWhile isWhiteSpace = []
  · simp [hne]
  · rw [List.append_cons, List.getLast?_append_of_ne_nil _ hne]

theorem body_append_bar (before after : Text) : body (before ++ '|' :: after) = before ++ '|' :: body after := by
  unfold body
  rw [isMarked_append_bar, rdropWhile_append_cons (by decide)]
  split
  · rename_i hmark
    have hne : after.rdropWhile isWhiteSpace ≠ [] := fun hnil => by simp [isMarked, hnil] at hmark
    rw [List.append_cons, List.dropLast_append_of_ne_nil hne, ← List.append_cons]
  · rfl

theorem asking_fewer (hmn : m ≤ n) (limit : Nat) (line : Text) :
    asking ⟨m, limit⟩ line = (asking ⟨n, limit⟩ line).take m := by
  unfold asking
  split
  · rw [List.take_nil]
  · simp only [looked, ← List.map_take, List.take_take, Nat.min_eq_left hmn]

theorem parse_fewer_of_ok (hmn : m ≤ n) (h : parse ⟨n, limit⟩ line = .ok p) :
    parse ⟨m, limit⟩ line = .ok ⟨p.stages.take m, p.background⟩ := by
  obtain ⟨hread, hmark⟩ := parse_eq_ok_iff.mp h
  rw [parse_eq_ok_iff, asking_fewer hmn]
  exact ⟨mapM_take_of_ok hread m, hmark⟩

theorem parse_fewer_of_error (hmn : m ≤ n) (h : parse ⟨n, limit⟩ line = .error f) :
    parse ⟨m, limit⟩ line = .error f ∨ ∃ p, parse ⟨m, limit⟩ line = .ok p := by
  have hcut := asking_fewer hmn limit line
  rcases mapM_take_of_error (parse_eq_error_iff.mp h) m with hread | ⟨stages, hread⟩
  · exact Or.inl (parse_eq_error_iff.mpr (hcut ▸ hread))
  · exact Or.inr ⟨⟨stages, isMarked line⟩, parse_eq_ok_iff.mpr ⟨hcut ▸ hread, rfl⟩⟩

/-- A line has no more segments than bars, and one. -/
theorem length_segments_le (line : Text) : ((body line).splitOn '|').length ≤ line.count '|' + 1 := by
  rw [length_splitOn]
  exact Nat.succ_le_succ ((body_sublist line).count_le '|')

theorem parse_of_bars_lt (h : line.count '|' < n) (limit : Nat) :
    parse ⟨n, limit⟩ line = parse ⟨line.count '|' + 1, limit⟩ line := by
  have hlength := length_segments_le line
  have hlooked : looked ⟨n, limit⟩ line = looked ⟨line.count '|' + 1, limit⟩ line := by
    rw [looked_eq, looked_eq, List.take_of_length_le (hlength.trans h), List.take_of_length_le hlength]
  rw [parse_eq_asking, parse_eq_asking, asking, asking, hlooked]

/-- The first segments of a line are those in front of a bar, whatever is behind it. -/
theorem parse_stages_append_bar (limit : Nat) (before after : Text) (hn : n ≤ before.count '|' + 1) :
    (parse ⟨n, limit⟩ (before ++ '|' :: after)).map (·.stages) =
      (((before.splitOn '|').take n).map fun s => (words (trimStart s)).take limit).mapM ofWords := by
  have hs : (body (before ++ '|' :: after)).isSpace = false := by
    rw [body_append_bar, isSpace, List.all_eq_false]
    exact ⟨'|', by simp, by decide⟩
  rw [parse_eq_mapM hs, looked_eq, body_append_bar, List.splitOn_append_cons_self,
    List.take_append_of_le_length (by rwa [length_splitOn])]
  cases (((before.splitOn '|').take n).map fun s => (words (trimStart s)).take limit).mapM ofWords <;> rfl

theorem take_stages_append_bar {before after other : Text} {q : Pipeline}
    (hp : parse ⟨n, limit⟩ (before ++ '|' :: after) = .ok p)
    (hq : parse ⟨n, limit⟩ (before ++ '|' :: other) = .ok q) :
    q.stages.take (before.count '|' + 1) = p.stages.take (before.count '|' + 1) := by
  have same : ∀ {m p q}, m ≤ before.count '|' + 1 → parse ⟨m, limit⟩ (before ++ '|' :: after) = .ok p →
      parse ⟨m, limit⟩ (before ++ '|' :: other) = .ok q → q.stages = p.stages := by
    intro m p q hm hp hq
    have hafter := parse_stages_append_bar limit before after hm
    rw [hp, ← parse_stages_append_bar limit before other hm, hq] at hafter
    exact (Except.ok.inj hafter).symm
  rcases Nat.le_total n (before.count '|' + 1) with hn | hn
  · rw [same hn hp hq]
  · exact same le_rfl (parse_fewer_of_ok hn hp) (parse_fewer_of_ok hn hq)

/-- The limit on stages cuts off the end of a pipeline and does nothing else. Under a lower limit the first stages are
left as they were, with the mark; a failure stays the same or is cut off as well; a limit above the number of bars does
not cut anything. What the first stages are read as does not depend on what stands behind their bar. -/
theorem parse_fewer_stages (line : Text) (limit : Nat) :
    (∀ m n p, m ≤ n → parse ⟨n, limit⟩ line = .ok p → parse ⟨m, limit⟩ line = .ok ⟨p.stages.take m, p.background⟩) ∧
    (∀ m n f, m ≤ n → parse ⟨n, limit⟩ line = .error f →
      parse ⟨m, limit⟩ line = .error f ∨ ∃ p, parse ⟨m, limit⟩ line = .ok p) ∧
    (∀ n, line.count '|' + 1 ≤ n → parse ⟨n, limit⟩ line = parse ⟨line.count '|' + 1, limit⟩ line) ∧
    (∀ before after other n p q, line = before ++ '|' :: after → parse ⟨n, limit⟩ line = .ok p →
      parse ⟨n, limit⟩ (before ++ '|' :: other) = .ok q →
      q.stages.take (before.count '|' + 1) = p.stages.take (before.count '|' + 1)) ∧
    (∀ before after other n, line = before ++ '|' :: after → n ≤ before.count '|' + 1 →
      (parse ⟨n, limit⟩ (before ++ '|' :: other)).map (·.stages) = (parse ⟨n, limit⟩ line).map (·.stages)) := by
  refine ⟨fun _ _ _ => parse_fewer_of_ok, fun _ _ _ => parse_fewer_of_error, fun _ h => parse_of_bars_lt h limit,
    ?_, ?_⟩
  · rintro before after other n p q rfl
    exact take_stages_append_bar
  · rintro before after other n rfl hn
    rw [parse_stages_append_bar limit before after hn, parse_stages_append_bar limit before other hn]

/-- Two of three stages are left with their mark, a failure behind the limit is gone, and what stands behind the last
bar that counts may as well be something else. -/
theorem parse_fewer_stages_marked :
    parse ⟨3, 63⟩ "sort < a | uniq | wc &".toList =
      .ok ⟨[⟨["sort".toList], some "a".toList, none, by simp⟩, ⟨["uniq".toList], none, none, by simp⟩,
        ⟨["wc".toList], none, none, by simp⟩], true⟩ ∧
    parse ⟨2, 63⟩ "sort < a | uniq | wc &".toList =
      .ok ⟨[⟨["sort".toList], some "a".toList, none, by simp⟩, ⟨["uniq".toList], none, none, by simp⟩], true⟩ ∧
    parse ⟨9, 63⟩ "sort < a | uniq | wc &".toList = parse ⟨3, 63⟩ "sort < a | uniq | wc &".toList ∧
    parse ⟨2, 63⟩ "sort | wc >".toList = .error (.missingTarget ">".toList) ∧
    (parse ⟨1, 63⟩ "sort | wc >".toList = .error (.missingTarget ">".toList) ∨
      ∃ p, parse ⟨1, 63⟩ "sort | wc >".toList = .ok p) ∧
    (parse ⟨1, 63⟩ "sort | cat".toList).map (·.stages) = (parse ⟨1, 63⟩ "sort | wc >".toList).map (·.stages) := by
  have hread : parse ⟨3, 63⟩ "sort < a | uniq | wc &".toList =
      .ok ⟨[⟨["sort".toList], some "a".toList, none, by simp⟩, ⟨["uniq".toList], none, none, by simp⟩,
        ⟨["wc".toList], none, none, by simp⟩], true⟩ := by decide +kernel
  have hfails : parse ⟨2, 63⟩ "sort | wc >".toList = .error (.missingTarget ">".toList) := by decide +kernel
  obtain ⟨hfewer, -, hbars, -, -⟩ := parse_fewer_stages "sort < a | uniq | wc &".toList 63
  obtain ⟨-, herror, -, -, hbehind⟩ := parse_fewer_stages "sort | wc >".toList 63
  exact ⟨hread, hfewer 2 3 _ (by decide) hread, hbars 9 (by decide), hfails, herror 1 2 _ (by decide) hfails,
    hbehind "sort ".toList " wc >".toList " cat".toList 1 rfl (by decide)⟩

end Pipeline

/-! ### The limit on words -/

namespace Stage

/-- The stream that a stage redirects; a stage that was read redirects one at most. -/
def direction? (s : Stage) : Option Direction :=
  if s.input.isSome then some .input else if s.output.isSome then some .output else none

/-- What is left of a stage of which `limit` words are looked at: its arguments are the first of its words, and the
operator and the target of its redirection the last two. -/
def cut (limit : Nat) (s : Stage) : Except Failure Stage :=
  if limit ≤ s.args.length then ofArgs (s.args.take limit)
  else match s.direction? with
    | none => .ok s
    | some d => if limit = s.args.length + 1 then .error (.missingTarget d.operator) else .ok s

/-- The limit lets the operator of a stage through, and cuts its target off. -/
def LosesTarget (limit : Nat) (s : Stage) : Prop :=
  limit = s.args.length + 1 ∧ s.direction? ≠ none

variable {limit : Nat} {s : Stage}

theorem ofWords_of_arguments {ws : List Text} (h : ∀ w ∈ ws, IsArgument w) : ofWords ws = ofArgs ws := by
  simp only [ofWords, Redirect.resolve_arguments h, ok_bind]
  cases ofArgs ws <;> rfl

/-- Fewer words of a stage are read as what is left of it. -/
theorem ofWords_take {ws : List Text} (h : ofWords ws = .ok s) (limit : Nat) :
    ofWords (ws.take limit) = s.cut limit := by
  rcases ofWords_eq_ok_iff.mp h with ⟨rfl, hargs, hi, ho⟩ | ⟨d, target, rest, rfl, hargs, hi, ho⟩
  · rw [ofWords_of_arguments fun w hw => hargs w (List.mem_of_mem_take hw), cut]
    split
    · rfl
    · rename_i hlimit
      have hd : s.direction? = none := by simp [direction?, hi, ho]
      rw [List.take_of_length_le (by omega), ← ofWords_of_arguments hargs, h, hd]
  · have hd : s.direction? = some d := by cases d <;> simp [direction?, hi, ho]
    rw [cut, hd]
    rcases Nat.lt_trichotomy limit (s.args.length + 1) with hlimit | rfl | hlimit
    · rw [if_pos (by omega), List.take_append_of_le_length (by omega)]
      exact ofWords_of_arguments fun w hw => hargs w (List.mem_of_mem_take hw)
    · rw [if_neg (by omega), List.take_length_add_append]
      simp only [List.take_succ_cons, List.take_zero, if_true]
      exact ofWords_of_endsInOperator ⟨s.args, rfl, hargs⟩
    · obtain ⟨k, rfl⟩ := Nat.exists_eq_add_of_le (show s.args.length + 2 ≤ limit by omega)
      rw [if_neg (by omega), Nat.add_assoc, List.take_length_add_append, Nat.add_comm 2]
      simp only [List.take_succ_cons]
      rw [if_neg (by omega)]
      exact ofWords_of_asks (Or.inr ⟨d, target, rest.take k, rfl, hargs, hi, ho⟩)

theorem exists_cut_iff (h : 1 ≤ limit) : (∃ t, s.cut limit = .ok t) ↔ ¬s.LosesTarget limit := by
  unfold cut LosesTarget
  split
  · rename_i hlimit
    have hne : s.args.take limit ≠ [] := by simpa using ⟨Nat.one_le_iff_ne_zero.mp h, s.args_ne_nil⟩
    exact ⟨fun _ hl => by omega, fun _ => ⟨_, ofArgs_of_ne_nil hne⟩⟩
  · cases s.direction? with
    | none => simp
    | some d =>
      by_cases hlimit : limit = s.args.length + 1 <;> simp [hlimit]

end Stage

/-! ### Lines under narrower limits -/

namespace Pipeline
open Text Stage

variable {limits wide : Limits} {line : Text} {p : Pipeline}

theorem asking_narrower (hstages : limits.stages ≤ wide.stages) (hwords : limits.words ≤ wide.words) (line : Text) :
    asking limits line = ((asking wide line).take limits.stages).map (List.take limits.words) := by
  unfold asking
  split
  · rw [List.take_nil, List.map_nil]
  · simp only [looked_eq, ← List.map_take, List.take_take, List.map_map, Nat.min_eq_left hstages]
    refine List.map_congr_left fun segment _ => ?_
    rw [Function.comp_apply, List.take_take, Nat.min_eq_left hwords]

/-- Under narrower limits, what a line is read as is what is left of what it was read as. -/
theorem parse_narrower (hstages : limits.stages ≤ wide.stages) (hwords : limits.words ≤ wide.words)
    (h : parse wide line = .ok p) : parse limits line =
      ((p.stages.take limits.stages).mapM (Stage.cut limits.words)).map fun stages => ⟨stages, p.background⟩ := by
  obtain ⟨hread, hmark⟩ := parse_eq_ok_iff.mp h
  have hcut := mapM_eq_mapM_of_ok (g := ofWords ∘ List.take limits.words)
    (fun ws s hws => ofWords_take hws limits.words) (mapM_take_of_ok hread limits.stages)
  rw [parse_eq_asking, asking_narrower hstages hwords, List.mapM_map, hcut, hmark]

/-- A line that is read as stages does not consist of bars alone. -/
theorem exists_ne_bar (hs : (body line).isSpace = false) (hpos : 0 < limits.stages) (h : parse limits line = .ok p) :
    ∃ c ∈ line, c ≠ '|' := by
  by_contra hbars
  obtain ⟨first, pieces, hsegments⟩ := List.exists_cons_of_ne_nil (List.splitOn_ne_nil '|' (body line))
  have hfirst : first = [] := by
    rw [List.eq_nil_iff_forall_not_mem]
    intro c hc
    rw [List.splitOn_eq_splitOnP] at hsegments
    obtain ⟨hne, hmem⟩ := mem_of_mem_splitOnP (hsegments ▸ List.mem_cons_self) c hc
    exact hbars ⟨c, (body_sublist line).subset hmem, by simpa using hne⟩
  obtain ⟨n, hn⟩ := Nat.exists_eq_succ_of_ne_zero hpos.ne'
  have hempty : ofWords ((words (trimStart [])).take limits.words) = .error .emptyStage := by
    rw [show words (trimStart []) = [] from rfl, List.take_nil]
    rfl
  rw [parse_eq_mapM hs, looked_eq, hsegments, hfirst, hn, List.take_succ_cons, List.map_cons, List.mapM_cons, hempty]
    at h
  cases h

/-- Limits no smaller than the length of a line leave nothing of it out. -/
theorem looked_of_length_le (hstages : line.length ≤ wide.stages) (hwords : line.length ≤ wide.words)
    (h : parse wide line = .ok p) (hs : (body line).isSpace = false) (hstages' : wide.stages ≤ limits.stages)
    (hwords' : wide.words ≤ limits.words) : looked limits line = looked wide line := by
  have hbody : (body line).length ≤ line.length := (body_sublist line).length_le
  have hsegments : ((body line).splitOn '|').length ≤ wide.stages := by
    have hpos : 0 < wide.stages := by
      cases hl : body line with
      | nil => simp [hl, isSpace] at hs
      | cons c t => simp [hl] at hbody; omega
    obtain ⟨c, hc, hne⟩ := exists_ne_bar hs hpos h
    have hbars : line.count '|' < line.length := List.count_lt_length_iff.mpr ⟨c, hc, hne⟩
    have := length_segments_le line
    omega
  have hpieces : ∀ segment ∈ (body line).splitOn '|', (words (trimStart segment)).length ≤ wide.words := by
    intro segment hsegment
    calc (words (trimStart segment)).length ≤ (trimStart segment).length := length_words_le _
      _ ≤ segment.length := (List.dropWhile_sublist _).length_le
      _ ≤ (body line).length := (sublist_of_mem_splitOn hsegment).length_le
      _ ≤ line.length := hbody
      _ ≤ wide.words := hwords
  rw [looked_eq, looked_eq, List.take_of_length_le hsegments, List.take_of_length_le (hsegments.trans hstages')]
  refine List.map_congr_left fun segment hsegment => ?_
  have hlength := hpieces segment hsegment
  rw [List.take_of_length_le hlength, List.take_of_length_le (hlength.trans hwords')]

theorem parse_of_length_le (hstages : line.length ≤ wide.stages) (hwords : line.length ≤ wide.words)
    (h : parse wide line = .ok p) (hstages' : wide.stages ≤ limits.stages) (hwords' : wide.words ≤ limits.words) :
    parse limits line = .ok p := by
  have hasking : asking limits line = asking wide line := by
    unfold asking
    split
    · rfl
    · rename_i hs
      exact looked_of_length_le hstages hwords h (eq_false_of_ne_true hs) hstages' hwords'
  rwa [parse_eq_asking, hasking, ← parse_eq_asking]

/-- What limits leave of a line that is read when nothing of it is left out: the first stages, each of them as its
first words say. The reading fails only by a stage of which the operator is looked at, and the target is not. -/
theorem parse_cut (hstages : line.length ≤ wide.stages) (hwords : line.length ≤ wide.words)
    (h : parse wide line = .ok p) (hlimit : 1 ≤ limits.words) :
    ((∃ q, parse limits line = .ok q) ↔ ∀ s ∈ p.stages.take limits.stages, ¬s.LosesTarget limits.words) ∧
    parse limits line =
      ((p.stages.take limits.stages).mapM (Stage.cut limits.words)).map fun stages => ⟨stages, p.background⟩ := by
  -- Wider limits than both leave nothing out either.
  have hwidest : parse ⟨max limits.stages wide.stages, max limits.words wide.words⟩ line = .ok p :=
    parse_of_length_le hstages hwords h (Nat.le_max_right _ _) (Nat.le_max_right _ _)
  have hcut : parse limits line =
      ((p.stages.take limits.stages).mapM (Stage.cut limits.words)).map fun stages => ⟨stages, p.background⟩ :=
    parse_narrower (Nat.le_max_left _ _) (Nat.le_max_left _ _) hwidest
  refine ⟨?_, hcut⟩
  calc (∃ q, parse limits line = .ok q)
      ↔ ∃ stages, (p.stages.take limits.stages).mapM (Stage.cut limits.words) = .ok stages := by
        simp only [hcut, map_eq_ok_iff]
        exact ⟨fun ⟨_, stages, hm, _⟩ => ⟨stages, hm⟩, fun ⟨stages, hm⟩ => ⟨_, stages, hm, rfl⟩⟩
    _ ↔ ∀ s ∈ p.stages.take limits.stages, ∃ t, s.cut limits.words = .ok t := exists_mapM_ok_iff
    _ ↔ ∀ s ∈ p.stages.take limits.stages, ¬s.LosesTarget limits.words :=
        forall₂_congr fun s _ => exists_cut_iff hlimit

/-- One redirection is kept, as its target is among the words that are looked at, and the other is cut off whole. -/
theorem parse_cut_wholeRedirections : "cat < a b | echo c d > e &".toList.length ≤ 26 ∧
    parse ⟨26, 26⟩ "cat < a b | echo c d > e &".toList =
      .ok ⟨[⟨["cat".toList], some "a".toList, none, by simp⟩,
        ⟨["echo".toList, "c".toList, "d".toList], none, some "e".toList, by simp⟩], true⟩ ∧
    parse ⟨2, 3⟩ "cat < a b | echo c d > e &".toList =
      .ok ⟨[⟨["cat".toList], some "a".toList, none, by simp⟩,
        ⟨["echo".toList, "c".toList, "d".toList], none, none, by simp⟩], true⟩ := by
  have hlength : "cat < a b | echo c d > e &".toList.length ≤ 26 := by decide
  have h : parse ⟨26, 26⟩ "cat < a b | echo c d > e &".toList =
      .ok ⟨[⟨["cat".toList], some "a".toList, none, by simp⟩,
        ⟨["echo".toList, "c".toList, "d".toList], none, some "e".toList, by simp⟩], true⟩ := by decide +kernel
  exact ⟨hlength, h, (@parse_cut ⟨2, 3⟩ ⟨26, 26⟩ _ _ hlength hlength h (by decide)).2⟩

/-- A limit can make a line unreadable that is read when nothing of it is left out. -/
theorem parse_cut_lostTarget : "echo hi > out".toList.length ≤ 13 ∧
    (∃ p, parse ⟨13, 13⟩ "echo hi > out".toList = .ok p) ∧
    parse ⟨10, 3⟩ "echo hi > out".toList = .error (.missingTarget ">".toList) :=
  ⟨by decide, ⟨⟨[⟨["echo".toList, "hi".toList], none, some "out".toList, by simp⟩], false⟩, by decide +kernel⟩,
    by decide +kernel⟩

end Pipeline

end JobShell
