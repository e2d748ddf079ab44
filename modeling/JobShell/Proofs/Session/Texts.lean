import JobShell.Proofs.Session.Course
import JobShell.Proofs.Text.Split
import JobShell.Proofs.Text.Utf8

/-! # Sessions over a text

A text is given to a session as its bytes. The lines of the bytes are those of the text, as a character of the text
that is no line feed has no byte that is one, and all of them can be read back. So a session over a text is one over
the lines of the text that are not blank. -/

namespace JobShell

namespace Text

theorem trim_concat_space {c : Char} (h : isWhiteSpace c = true) (t : Text) : trim (t ++ [c]) = trim t := by
  unfold trim trimStart
  rw [List.dropWhile_append]
  split
  · rename_i hempty
    rw [List.isEmpty_iff.mp hempty]
    simp [h]
  · rw [trimEnd_eq_rdropWhile, trimEnd_eq_rdropWhile, List.rdropWhile_concat_pos _ _ _ h]

/-- A text without a carriage return at its end. -/
def withoutReturn (t : Text) : Text := if t.getLast? = some '\r' then t.dropLast else t

theorem withoutReturn_concat (t : Text) : withoutReturn (t ++ ['\r']) = t := by
  rw [withoutReturn, List.getLast?_concat, if_pos rfl, List.dropLast_concat]

theorem trim_withoutReturn (t : Text) : (withoutReturn t).trim = t.trim := by
  by_cases h : t.getLast? = some '\r'
  · obtain ⟨t', rfl⟩ := List.getLast?_eq_some_iff.mp h
    rw [withoutReturn_concat, trim_concat_space (by decide)]
  · rw [withoutReturn, if_neg h]

end Text

namespace Session

/-- The lines that are to be evaluated: without the white space around them, and without the blank ones. -/
def entered (texts : List Text) : List Text := (texts.map Text.trim).filter (· ≠ [])

/-- The lines that are to be evaluated, one after the other. -/
inductive Enters : List Text → List Text → Prop
  | nil : Enters [] []
  | blank {text : Text} {texts lines : List Text} (hblank : ∀ c ∈ text, Text.isWhiteSpace c = true)
      (h : Enters texts lines) : Enters (text :: texts) lines
  | cons {text line : Text} {texts lines : List Text} (hline : text.Stripped line) (hne : line ≠ [])
      (h : Enters texts lines) : Enters (text :: texts) (line :: lines)

theorem entered_cons (text : Text) (texts : List Text) : entered (text :: texts) = entered [text] ++ entered texts := by
  rw [entered, List.map_cons, ← List.singleton_append, List.filter_append]
  rfl

theorem entered_of_blank {text : Text} (h : text.trim = []) : entered [text] = [] := by
  simp [entered, h]

theorem entered_of_not_blank {text : Text} (h : text.trim ≠ []) : entered [text] = [text.trim] := by
  simp [entered, h]

theorem enters_entered (texts : List Text) : Enters texts (entered texts) := by
  induction texts with
  | nil => exact .nil
  | cons text texts ih =>
    rw [entered_cons]
    by_cases hblank : text.trim = []
    · rw [entered_of_blank hblank]
      exact .blank (Text.trim_eq_nil_iff.mp hblank) ih
    · rw [entered_of_not_blank hblank]
      exact .cons (Text.stripped_trim text) hblank ih

end Session

namespace Source
open Text

theorem lineFeed_mem_encodeChar_iff {c : Char} : lineFeed ∈ String.utf8EncodeChar c ↔ '\n' = c :=
  ascii_mem_encodeChar_iff (d := '\n') (by decide)

theorem carriageReturn_mem_encodeChar_iff {c : Char} : carriageReturn ∈ String.utf8EncodeChar c ↔ '\r' = c :=
  ascii_mem_encodeChar_iff (d := '\r') (by decide)

/-- Bytes without a line feed stand in front of the first line. -/
theorem splitOn_append {first : Bytes} (h : lineFeed ∉ first) (rest : Bytes) :
    (first ++ rest).splitOn lineFeed = (rest.splitOn lineFeed).modifyHead (first ++ ·) := by
  induction first with
  | nil => exact (congrFun List.modifyHead_id _).symm
  | cons b first ih =>
    obtain ⟨hb, hfirst⟩ := List.ne_and_not_mem_of_not_mem_cons h
    rw [List.cons_append, List.splitOn_cons_eq_if_modifyHead, if_neg (by simpa using hb.symm), ih hfirst,
      List.modifyHead_modifyHead]
    rfl

theorem splitOn_encode (t : Text) : t.encode.splitOn lineFeed = (t.splitOn '\n').map encode := by
  induction t with
  | nil => rfl
  | cons c t ih =>
    rw [List.splitOn_cons_eq_if_modifyHead, encode, List.flatMap_cons]
    by_cases hc : c = '\n'
    · subst hc
      show (lineFeed :: encode t).splitOn lineFeed = _
      rw [List.splitOn_cons_eq_if_modifyHead, if_pos (by simp), if_pos (by simp), ih]
      rfl
    · rw [if_neg (by simpa using hc), splitOn_append (mt lineFeed_mem_encodeChar_iff.mp (Ne.symm hc))]
      rw [show List.flatMap String.utf8EncodeChar t = encode t from rfl, ih]
      cases t.splitOn '\n' with
      | nil => rfl
      | cons piece pieces => rfl

theorem chomp_concat (line : Bytes) : chomp (line ++ [carriageReturn]) = line := by
  rw [chomp, List.getLast?_concat, if_pos rfl, List.dropLast_concat]

theorem encode_concat_return (t : Text) : encode (t ++ ['\r']) = t.encode ++ [carriageReturn] := by
  rw [encode, List.flatMap_append]
  rfl

theorem getLast?_encode_iff {t : Text} : t.encode.getLast? = some carriageReturn ↔ t.getLast? = some '\r' := by
  rcases List.eq_nil_or_concat t with rfl | ⟨t, c, rfl⟩
  · exact iff_of_false nofun nofun
  · rw [List.concat_eq_append, encode, List.flatMap_append, List.flatMap_singleton,
      List.getLast?_append_of_ne_nil _ String.utf8EncodeChar_ne_nil, List.getLast?_concat, Option.some.injEq]
    constructor
    · intro hlast
      exact (carriageReturn_mem_encodeChar_iff.mp (List.mem_of_getLast? hlast)).symm
    · rintro rfl
      rfl

theorem chomp_encode (t : Text) : chomp t.encode = (withoutReturn t).encode := by
  by_cases h : t.getLast? = some '\r'
  · obtain ⟨t', rfl⟩ := List.getLast?_eq_some_iff.mp h
    rw [withoutReturn_concat, encode_concat_return, chomp_concat]
  · rw [withoutReturn, if_neg h, chomp, if_neg (mt getLast?_encode_iff.mp h)]

/-- All lines of a text can be read, and but for white space they are what stands between its line feeds. -/
theorem lines_encode (t : Text) : ∃ texts : List Text, (lines t.encode).map decode? = texts.map some ∧
    Session.entered texts = Session.entered (t.splitOn '\n') := by
  have hchomped : ∀ pieces : List Text, ∃ texts : List Text,
      ((pieces.map encode).map chomp).map decode? = texts.map some ∧ texts.map Text.trim = pieces.map Text.trim := by
    intro pieces
    induction pieces with
    | nil => exact ⟨[], rfl, rfl⟩
    | cons piece pieces ih =>
      obtain ⟨texts, hdecode, htrim⟩ := ih
      refine ⟨withoutReturn piece :: texts, ?_, ?_⟩
      · rw [List.map_cons, List.map_cons, List.map_cons, List.map_cons, chomp_encode, decode?_encode, hdecode]
      · rw [List.map_cons, List.map_cons, trim_withoutReturn, htrim]
  obtain ⟨init, last, hpieces⟩ : ∃ init last, t.splitOn '\n' = init ++ [last] :=
    ⟨_, _, (List.dropLast_append_getLast (List.splitOn_ne_nil '\n' t)).symm⟩
  obtain ⟨texts, hdecode, htrim⟩ := hchomped init
  -- What is behind the last line feed is left out by the one if it is empty, and by the other as it is blank then.
  refine ⟨texts ++ [last].filter (· ≠ []), ?_, ?_⟩
  · have hencoded : t.encode.splitOn lineFeed = init.map encode ++ [encode last] := by
      rw [splitOn_encode, hpieces, List.map_append, List.map_singleton]
    rw [lines, hencoded, List.dropLast_concat, List.getLast?_concat, List.map_append, List.map_append, hdecode]
    by_cases hlast : last = []
    · simp [hlast, encode]
    · have hne : encode last ≠ [] := by
        intro hnil
        have hdecoded := decode?_encode last
        rw [hnil] at hdecoded
        exact hlast (Option.some.inj hdecoded).symm
      simp [hlast, hne, decode?_encode]
  · rw [hpieces, Session.entered, Session.entered, List.map_append, List.map_append, htrim, List.filter_append,
      List.filter_append]
    by_cases hlast : last = []
    · simp [hlast, trim, trimStart, trimEnd]
    · simp [hlast]

end Source

namespace Session
variable {σ : Type} {eval : σ → Text → Prog (Except Failure Flow × σ)}

/-- A session over lines of text that are not blank. -/
def throughTexts (eval : σ → Text → Prog (Except Failure Flow × σ)) (shell : σ) :
    List Text → Prog (Except Stop (Option Int) × σ)
  | [] => return (.ok none, shell)
  | line :: lines => do
    let (result, shell) ← eval shell line
    match ← (settle result).run with
    | .error stop => return (.error stop, shell)
    | .ok (.exit code) => return (.ok (some code), shell)
    | .ok .proceed => throughTexts eval shell lines

theorem throughLines_eq {lines : List Bytes} {texts : List Text} (h : lines.map Text.decode? = texts.map some)
    (shell : σ) : throughLines eval shell lines = throughTexts eval shell (entered texts) := by
  induction texts generalizing lines shell with
  | nil =>
    obtain rfl := List.map_eq_nil_iff.mp h
    rfl
  | cons text texts ih =>
    obtain ⟨line, lines, rfl, hline, hlines⟩ := List.map_eq_cons_iff.mp h
    rw [throughLines, Source.textOf, hline, entered_cons]
    dsimp only
    by_cases hblank : text.trim = []
    · rw [feed_of_blank hblank, entered_of_blank hblank]
      exact ih hlines shell
    · rw [feed, if_neg (mt List.isEmpty_iff.mp hblank), entered_of_not_blank hblank]
      show ((eval shell text.trim).bind _).bind _ = (eval shell text.trim).bind _
      rw [Prog.bind_assoc]
      congr 1
      funext x
      obtain ⟨result, shell'⟩ := x
      show ((settle result).run.bind _).bind _ = (settle result).run.bind _
      rw [Prog.bind_assoc]
      congr 1
      funext flow
      rcases flow with stop | _ | code
      · rfl
      · exact ih hlines shell'
      · rfl

/-- A session over a text is one over its lines, without the white space around them and without the blank ones. -/
theorem through_encode_unfolds (shell : σ) (text : Text) :
    (through eval shell text.encode).Unfolds (throughTexts eval shell (entered (text.splitOn '\n'))) := by
  obtain ⟨texts, hdecode, hentered⟩ := Source.lines_encode text
  rw [← hentered, ← throughLines_eq hdecode]
  exact through_unfolds eval shell text.encode

end Session

end JobShell
