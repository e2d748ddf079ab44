import JobShell.Proofs.Pipeline.Mark
import JobShell.Proofs.Session.Texts
import JobShell.Shell

/-! # White space around a line

A session takes off the white space around a line. The shell would not see it anyway: white space in front of a line is
in front of its first segment, and white space behind it is behind its mark or its last segment. So a line is evaluated
in a session as it is by the shell itself. Only a blank line is not evaluated at all, and keeps the status. -/

namespace JobShell

namespace Text
variable {c : Char}

/-- White space in front of a text stays when that at its end is taken off, unless there is nothing between. -/
theorem rdropWhile_space (hc : isWhiteSpace c = true) (t : Text) : (c :: t).rdropWhile isWhiteSpace =
    if t.rdropWhile isWhiteSpace = [] then [] else c :: t.rdropWhile isWhiteSpace := by
  split
  · rename_i h
    rw [List.rdropWhile_eq_nil_iff] at h ⊢
    exact List.forall_mem_cons.mpr ⟨hc, h⟩
  · rename_i h
    simp only [List.rdropWhile, List.reverse_cons, List.dropWhile_append]
    rw [if_neg (by simpa [List.rdropWhile] using h), List.reverse_concat]

/-- White space in front of a text is in front of its first segment. -/
theorem map_trimStart_splitOn_space (hc : isWhiteSpace c = true) (t : Text) :
    ((c :: t).splitOn '|').map trimStart = (t.splitOn '|').map trimStart := by
  have hbar : ¬ (c == '|') = true := by
    intro h
    rw [beq_iff_eq.mp h] at hc
    cases hc
  rw [List.splitOn_cons_eq_if_modifyHead, if_neg hbar]
  cases t.splitOn '|' with
  | nil => rfl
  | cons first rest => rw [List.modifyHead_cons, List.map_cons, List.map_cons, trimStart_space hc]

theorem isSpace_space (hc : isWhiteSpace c = true) (t : Text) : isSpace (c :: t) = isSpace t := by
  rw [isSpace, List.all_cons, hc, Bool.true_and, isSpace]

end Text

namespace Pipeline
open Text

variable {c : Char}

theorem isMarked_space (hc : isWhiteSpace c = true) (line : Text) : isMarked (c :: line) = isMarked line := by
  rw [isMarked, isMarked, rdropWhile_space hc]
  split
  · rename_i h
    rw [h]
  · rename_i h
    rw [List.getLast?_cons_of_ne_nil h]

theorem body_space (hc : isWhiteSpace c = true) (line : Text) :
    body (c :: line) = if line.rdropWhile isWhiteSpace = [] then body line else c :: body line := by
  unfold body
  rw [isMarked_space hc, rdropWhile_space hc]
  by_cases h : line.rdropWhile isWhiteSpace = []
  · rw [if_pos h, if_pos h, h]
  · rw [if_neg h, if_neg h, List.dropLast_cons_of_ne_nil h]
    split <;> rfl

theorem looked_eq_map_trimStart (limits : Limits) (line : Text) : looked limits line =
    ((((body line).splitOn '|').map trimStart).take limits.stages).map fun s => (words s).take limits.words := by
  rw [looked_eq, ← List.map_take, List.map_map]
  rfl

theorem asking_space (hc : isWhiteSpace c = true) (limits : Limits) (line : Text) :
    asking limits (c :: line) = asking limits line := by
  -- The body is empty if there is a mark and nothing in front of it, and so it need not keep what it has in front.
  have hspace : (body (c :: line)).isSpace = (body line).isSpace := by
    rw [body_space hc]
    split
    · rfl
    · exact isSpace_space hc _
  have hlooked : looked limits (c :: line) = looked limits line := by
    have hsegments : ((body (c :: line)).splitOn '|').map trimStart = ((body line).splitOn '|').map trimStart := by
      rw [body_space hc]
      split
      · rfl
      · exact map_trimStart_splitOn_space hc _
    rw [looked_eq_map_trimStart, looked_eq_map_trimStart, hsegments]
  rw [asking, asking, hspace, hlooked]

/-- White space in front of a line is not looked at. -/
theorem parse_trimStart (limits : Limits) (line : Text) : parse limits line.trimStart = parse limits line := by
  induction line with
  | nil => rfl
  | cons c line ih =>
    cases hc : isWhiteSpace c with
    | false => rw [trimStart_cons hc]
    | true =>
      have hasking := asking_space hc limits line
      rw [trimStart_space hc, ih, parse_eq_asking, parse_eq_asking, hasking, isMarked_space hc]

theorem parse_trim (limits : Limits) (line : Text) : parse limits line.trim = parse limits line := by
  rw [trim, trimEnd_eq_rdropWhile, parse_rdropWhile, parse_trimStart]

end Pipeline

theorem Shell.eval_trim (shell : Shell) (line : Text) : shell.eval line.trim = shell.eval line := by
  have hobey : obey shell.limits line.trim = obey shell.limits line := by
    rw [obey, obey, Pipeline.parse_trim]
  rw [eval, eval, hobey]

theorem Shell.eval_of_blank (shell : Shell) {line : Text} (h : ∀ c ∈ line, Text.isWhiteSpace c = true) :
    shell.eval line = pure (.ok .proceed, { shell with status := 0 }) := by
  have hparse : Pipeline.parse shell.limits line = .ok ⟨[], false⟩ := by
    rw [← Pipeline.parse_trim, Text.trim_eq_nil_iff.mpr h]
    rfl
  have hobey : obey shell.limits line = pure (.proceed, none) := by
    rw [obey, hparse]
    rfl
  rw [eval, hobey]
  rfl

namespace Session
open Prog

/-- The evaluation of one line as it is, with what a session does behind it. -/
def taken (shell : Shell) (line : Text) : Prog (Except Stop Flow × Shell) := do
  let (result, shell) ← shell.eval line
  let flow ← (settle result).run
  return (flow, shell)

/-- The evaluation of lines as they are, up to one that ends the session. A blank line is passed over. -/
def takenAll (shell : Shell) : List Text → Prog (Except Stop (Option Int) × Shell)
  | [] => return (.ok none, shell)
  | line :: lines =>
    if line.isSpace then takenAll shell lines
    else do
      let (flow, shell) ← taken shell line
      match flow with
      | .error stop => return (.error stop, shell)
      | .ok (.exit code) => return (.ok (some code), shell)
      | .ok .proceed => takenAll shell lines

variable {trace : List Event} {line : Text}

theorem feed_eq_taken (h : ¬ ∀ c ∈ line, Text.isWhiteSpace c = true) (shell : Shell) :
    feed Shell.eval shell line = taken shell line := by
  have hempty : ¬ line.trim.isEmpty = true := fun he => h (Text.trim_eq_nil_iff.mp (List.isEmpty_iff.mp he))
  rw [feed, if_neg hempty, Shell.eval_trim]
  rfl

theorem runs_taken_iff {shell after : Shell} {flow : Except Stop Flow} : Runs (taken shell line) trace (flow, after) ↔
    ∃ evaluated result settled, trace = evaluated ++ settled ∧ Runs (shell.eval line) evaluated (result, after) ∧
      Settles result settled flow := by
  constructor
  · intro h
    obtain ⟨evaluated, ⟨result, shell'⟩, t, rfl, heval, hrest⟩ := runs_bind_iff.mp h
    obtain ⟨settled, flow', t', rfl, hsettle, hend⟩ := runs_bind_iff.mp hrest
    obtain ⟨rfl, he⟩ := runs_done_iff.mp hend
    cases he
    rw [List.append_nil]
    exact ⟨evaluated, result, settled, rfl, heval, runs_settle_iff.mp hsettle⟩
  · rintro ⟨evaluated, result, settled, rfl, heval, hsettles⟩
    refine heval.bind ?_
    rw [← List.append_nil settled]
    exact (runs_settle_iff.mpr hsettles).bind (.done _)

theorem throughLines_eq_takenAll {lines : List Bytes} {texts : List Text}
    (h : lines.map Text.decode? = texts.map some) (shell : Shell) :
    throughLines Shell.eval shell lines = takenAll shell texts := by
  induction texts generalizing lines shell with
  | nil =>
    obtain rfl := List.map_eq_nil_iff.mp h
    rfl
  | cons text texts ih =>
    obtain ⟨line, lines, rfl, hline, hlines⟩ := List.map_eq_cons_iff.mp h
    rw [throughLines, takenAll, Source.textOf, hline]
    dsimp only
    by_cases hblank : ∀ c ∈ text, Text.isWhiteSpace c = true
    · have hspace : text.isSpace = true := List.all_eq_true.mpr hblank
      rw [if_pos hspace, feed_of_blank (Text.trim_eq_nil_iff.mpr hblank)]
      exact ih hlines shell
    · have hspace : ¬ text.isSpace = true := mt List.all_eq_true.mp hblank
      rw [if_neg hspace, feed_eq_taken hblank]
      show (taken shell text).bind _ = (taken shell text).bind _
      congr 1
      funext x
      obtain ⟨stop | _ | code, shell'⟩ := x
      · rfl
      · exact ih hlines shell'
      · rfl

/-- A line is read as the line without the white space around it. So a session evaluates a line that is not blank
exactly as the shell does, and so it does with all lines of its input, one after the other. Behind each it says what has
failed and writes out what was printed, which ends the session if it is refused. Of a blank line, neither makes anything;
but the session keeps the status, and the shell does not. -/
theorem trim_unseen (limits : Limits) (shell : Shell) (line : Text) :
    line.Stripped line.trim ∧
    Pipeline.parse limits line.trim = Pipeline.parse limits line ∧
    shell.eval line.trim = shell.eval line ∧
    ((∃ c ∈ line, Text.isWhiteSpace c = false) → ∀ trace flow after,
      Runs (feed Shell.eval shell line) trace (flow, after) ↔ ∃ evaluated result settled, trace = evaluated ++ settled ∧
        Runs (shell.eval line) evaluated (result, after) ∧ Settles result settled flow) ∧
    ((∀ c ∈ line, Text.isWhiteSpace c = true) → feed Shell.eval shell line = pure (.ok .proceed, shell) ∧
      shell.eval line = pure (.ok .proceed, { shell with status := 0 })) ∧
    ∀ bytes texts, (Source.lines bytes).map Text.decode? = texts.map some →
      (through Shell.eval shell bytes).Unfolds (takenAll shell texts) := by
  refine ⟨Text.stripped_trim line, Pipeline.parse_trim limits line, Shell.eval_trim shell line, ?_, ?_, ?_⟩
  · rintro ⟨c, hc, hspace⟩ trace flow after
    rw [feed_eq_taken (fun h => by simp [h c hc] at hspace), runs_taken_iff]
  · exact fun h => ⟨feed_of_blank (Text.trim_eq_nil_iff.mpr h), Shell.eval_of_blank shell h⟩
  · intro bytes texts h
    rw [← throughLines_eq_takenAll h]
    exact through_unfolds Shell.eval shell bytes

/-- The shell evaluates the line and comes to an end with one failure. A session of the same line says this failure, and
then breaks off with another, which the shell by itself has not. -/
theorem trim_seen_unannounced : ∃ after,
    Runs (Shell.eval ⟨⟨10, 63⟩, 0⟩ "a &".toList) unannounced (.error (.system .noSpace), after) ∧
    Runs (feed Shell.eval ⟨⟨10, 63⟩, 0⟩ "a &".toList)
      (unannounced ++ [⟨.write 2 (Text.encode "pish: No space left on device (os error 28)\n".toList), .ok 44⟩,
        ⟨.flush, .error .noSpace⟩])
      (.error (.failure (.system .noSpace)), after) := by
  refine ⟨⟨⟨10, 63⟩, 1⟩, .call (.call (.call (.call (.call (.done _))))), ?_⟩
  exact .call (.call (.call (.call (.call (.call (.call (.done _)))))))

end Session

end JobShell
