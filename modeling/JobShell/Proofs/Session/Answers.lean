import JobShell.Proofs.Prog.Conclude
import JobShell.Proofs.Session.Texts

/-! # What a source answers

A source is asked for one line after the other, up to its end. Its bytes are pieces with a line feed behind each, and
a rest that may be empty. There is one answer for each piece and one for a rest that is not empty, in their order,
and each depends on its own piece alone: it is the text of the piece without a carriage return in front of the line
feed, or an error if the piece is no text. It does not matter how the bytes arrive, all at once or in blocks of a
file. -/

namespace JobShell.Source
open Text Prog

/-- Asks for lines up to the end, with some answers in front. A line that is no text is an answer like any other. -/
def collecting (s : Source) (given : List (Except Failure Text)) : Prog (List (Except Failure Text)) :=
  Prog.repeated (fun (s, given) => do
    let (line, s) ← Source.next s
    match line with
    | .ok none => return .inr given
    | .ok (some t) => return .inl (s, given ++ [.ok t])
    | .error f => return .inl (s, given ++ [.error f])) (s, given)

/-- All answers of a source. -/
def answers (s : Source) : Prog (List (Except Failure Text)) := s.collecting []

/-- A file with some bytes that have not been read. A read gives the first of them, and nothing only if there are
none. -/
def supply : Surroundings Bytes where
  Answer
    | .read _ limit, rest, r, rest' =>
      ∃ block, r = .ok block ∧ rest = block ++ rest' ∧ block.length ≤ limit ∧ (block = [] → rest = [])
    | _, _, _, _ => False
  Drift _ _ := False

/-- The bytes in front of a source: those that it has, and the rest of its file if it reads from one. -/
def Ahead (s : Source) (rest bytes : Bytes) : Prop :=
  s.bytes ++ rest = bytes ∧ (s.descriptor = none → rest = [])

variable {s : Source} {bytes line behind rest : Bytes}

theorem ahead_ofBytes (bytes : Bytes) : Ahead (ofBytes bytes) [] bytes :=
  ⟨List.append_nil bytes, fun _ => rfl⟩

theorem ahead_ofDescriptor (d : Descriptor) (bytes : Bytes) : Ahead (ofDescriptor d) bytes bytes :=
  ⟨rfl, nofun⟩

theorem eq_of_drifts {rest' : Bytes} (h : supply.Drifts rest rest') : rest' = rest := by
  induction h with
  | refl => rfl
  | tail _ hd => exact hd.elim

/-! ### One line -/

theorem cut?_append_lineFeed (h : lineFeed ∉ line) (behind : Bytes) :
    cut? (line ++ lineFeed :: behind) = some (line, behind) := by
  have hline : ∀ b ∈ line, (b != lineFeed) = true := fun b hb => bne_iff_ne.mpr fun he => h (he ▸ hb)
  have hdrop : (line ++ lineFeed :: behind).dropWhile (· != lineFeed) = lineFeed :: behind := by
    rw [List.dropWhile_append_of_pos hline, List.dropWhile_cons_of_neg (by simp)]
  have htake : (line ++ lineFeed :: behind).takeWhile (· != lineFeed) = line := by
    rw [List.takeWhile_append_of_pos hline, List.takeWhile_cons_of_neg (by simp), List.append_nil]
  rw [cut?, hdrop, htake]

theorem cut?_append (h : cut? bytes = some (line, behind)) (rest : Bytes) :
    cut? (bytes ++ rest) = some (line, behind ++ rest) := by
  obtain ⟨hline, rfl⟩ := eq_of_cut? h
  rw [List.append_assoc, List.cons_append, cut?_append_lineFeed hline]

/-- The source has read up to the end of a line, and what is behind that is in front of it. -/
def ReadPiece (bytes : Bytes) (r : Except Failure (Option (Bytes × Bool)) × Source) (rest : Bytes) : Prop :=
  match cut? bytes with
  | some (line, behind) => r.1 = .ok (some (line, true)) ∧ Ahead r.2 rest behind
  | none => r.1 = .ok (if bytes = [] then none else some (bytes, false)) ∧ Ahead r.2 rest []

theorem readPiece_end (d : Option Descriptor) (h : cut? bytes = none) :
    ReadPiece bytes (.ok (if bytes.isEmpty then none else some (bytes, false)), ⟨d, []⟩) [] := by
  rw [ReadPiece, h]
  refine ⟨?_, rfl, fun _ => rfl⟩
  simp only [List.isEmpty_iff]

theorem concludes_done {α : Type} {Q : α → Bytes → Prop} {a : α} (h : Q a rest) :
    Concludes supply Q rest (.done a) :=
  .done fun _ hd => eq_of_drifts hd ▸ h

theorem concludes_nextPiece (h : Ahead s rest bytes) : Concludes supply (ReadPiece bytes) rest s.nextPiece := by
  obtain ⟨descriptor, held⟩ := s
  obtain ⟨rfl, hrest⟩ := h
  dsimp only at hrest ⊢
  -- A block is read only while the bytes that the source has do not hold the end of a line.
  induction hn : rest.length using Nat.strongRecOn generalizing held rest with
  | ind n ih =>
    subst hn
    refine .loop (.bind ?_)
    dsimp only
    cases hcut : cut? held with
    | some cut =>
      obtain ⟨line, behind⟩ := cut
      refine concludes_done (concludes_done ?_)
      rw [ReadPiece, cut?_append hcut]
      exact ⟨rfl, rfl, hrest⟩
    | none =>
      have atEnd : ReadPiece (held ++ []) (.ok (if held.isEmpty then none else some (held, false)), ⟨descriptor, []⟩)
          [] := by
        rw [List.append_nil]
        exact readPiece_end descriptor hcut
      cases descriptor with
      | none =>
        obtain rfl := hrest rfl
        exact concludes_done (concludes_done atEnd)
      | some d =>
        refine .call (fun rest' hd => ?_) fun rest' r rest'' hd ha => ?_
        · have hblock : rest'.take blockSize = [] → rest' = [] := by simp [blockSize]
          exact ⟨rest', .ok (rest'.take blockSize), rest'.drop blockSize, .refl, _, rfl,
            (List.take_append_drop _ _).symm, List.length_take_le _ _, hblock⟩
        · obtain rfl := eq_of_drifts hd
          obtain ⟨block, rfl, rfl, -, hempty⟩ := ha
          cases block with
          | nil =>
            obtain rfl := hempty rfl
            exact concludes_done (concludes_done atEnd)
          | cons b block =>
            have hless : rest''.length < (b :: block ++ rest'').length := by
              rw [List.length_append, List.length_cons]
              omega
            rw [← List.append_assoc]
            exact concludes_done (ih _ hless _ nofun rfl)

/-- The source has given the first line, and what is behind that is in front of it. A line that is no text has been used
up as well. -/
def ReadLine (bytes : Bytes) (r : Except Failure (Option Text) × Source) (rest : Bytes) : Prop :=
  match firstLine? bytes with
  | some (line, behind) => r.1 = (textOf line).map some ∧ Ahead r.2 rest behind
  | none => r.1 = .ok none

theorem concludes_next (h : Ahead s rest bytes) : Concludes supply (ReadLine bytes) rest s.next := by
  refine .bind ((concludes_nextPiece h).mono fun r rest hr => ?_)
  obtain ⟨piece, s⟩ := r
  unfold ReadPiece at hr
  cases hcut : cut? bytes with
  | some cut =>
    obtain ⟨line, behind⟩ := cut
    rw [hcut] at hr
    obtain ⟨rfl, hahead⟩ := hr
    refine concludes_done ?_
    rw [ReadLine, firstLine?, hcut]
    exact ⟨rfl, hahead⟩
  | none =>
    rw [hcut] at hr
    obtain ⟨rfl, hahead⟩ := hr
    by_cases hbytes : bytes = []
    · rw [if_pos hbytes]
      refine concludes_done ?_
      rw [ReadLine, firstLine?, hcut]
      dsimp only
      rw [if_pos hbytes]
    · rw [if_neg hbytes]
      refine concludes_done ?_
      rw [ReadLine, firstLine?, hcut]
      dsimp only
      rw [if_neg hbytes]
      exact ⟨rfl, hahead⟩

/-! ### All lines -/

theorem concludes_collecting (h : Ahead s rest bytes) (given : List (Except Failure Text)) :
    Concludes supply (fun all _ => all = given ++ (lines bytes).map textOf) rest (collecting s given) := by
  induction hn : bytes.length using Nat.strongRecOn generalizing s rest bytes given with
  | ind n ih =>
    subst hn
    refine .loop (.bind (.bind ((concludes_next h).mono fun r rest hr => ?_)))
    obtain ⟨answer, s⟩ := r
    unfold ReadLine at hr
    cases hfirst : firstLine? bytes with
    | none =>
      rw [hfirst] at hr
      obtain rfl := hr
      refine concludes_done (concludes_done ?_)
      rw [lines_of_none hfirst, List.map_nil, List.append_nil]
    | some first =>
      obtain ⟨line, behind⟩ := first
      rw [hfirst] at hr
      obtain ⟨rfl, hahead⟩ := hr
      have hmore := ih _ (length_lt_of_some hfirst) hahead (given ++ [textOf line]) rfl
      rw [List.append_assoc, List.singleton_append, ← List.map_cons, ← lines_of_some hfirst] at hmore
      cases hline : textOf line with
      | ok t =>
        rw [hline] at hmore
        exact concludes_done hmore
      | error f =>
        rw [hline] at hmore
        exact concludes_done hmore

/-- These are the answers of a source with the bytes in front of it, whether it has them or reads them from a file. -/
def Gives (bytes : Bytes) (all : List (Except Failure Text)) : Prop :=
  ∀ s rest, Ahead s rest bytes → Concludes supply (fun given _ => given = all) rest s.answers

theorem gives_lines (bytes : Bytes) : Gives bytes ((lines bytes).map textOf) := fun _ _ h =>
  concludes_collecting h []

/-! ### Pieces -/

/-- The bytes of pieces with a line feed behind each, and of a rest. -/
def written (pieces : List Bytes) (rest : Bytes) : Bytes :=
  pieces.flatMap (· ++ [lineFeed]) ++ rest

/-- What is to be answered for one piece, which is ended by a line feed or not. -/
def answer (ended : Bool) (piece : Bytes) : Except Failure Text :=
  match decode? piece with
  | some t => .ok (if ended then withoutReturn t else t)
  | none => .error .notText

/-- What is to be answered for all pieces and for the rest, unless it is empty. -/
def answered (pieces : List Bytes) (rest : Bytes) : List (Except Failure Text) :=
  pieces.map (answer true) ++ if rest = [] then [] else [answer false rest]

variable {piece : Bytes} {pieces : List Bytes}

theorem answer_encode (ended : Bool) (t : Text) :
    answer ended t.encode = .ok (if ended then withoutReturn t else t) := by
  rw [answer, decode?_encode]

theorem answer_of_forall_ne (ended : Bool) (h : ∀ t : Text, t.encode ≠ piece) :
    answer ended piece = .error .notText := by
  have hnone : decode? piece = none := Option.eq_none_iff_forall_ne_some.mpr fun t ht =>
    h t (decode?_eq_some_iff.mp ht)
  rw [answer, hnone]

theorem textOf_eq_answer (rest : Bytes) : textOf rest = answer false rest := by
  unfold textOf answer
  cases decode? rest <;> rfl

/-- A carriage return is a text by itself, so that without one a piece is a text if it was one. -/
theorem textOf_chomp (piece : Bytes) : textOf (chomp piece) = answer true piece := by
  by_cases htext : ∃ t : Text, t.encode = piece
  · obtain ⟨t, rfl⟩ := htext
    rw [chomp_encode, textOf_eq_answer, answer_encode, answer_encode, if_pos rfl, if_neg nofun]
  · have hchomp : ∀ t : Text, t.encode ≠ chomp piece := by
      intro t ht
      by_cases hlast : piece.getLast? = some carriageReturn
      · obtain ⟨line, rfl⟩ := List.getLast?_eq_some_iff.mp hlast
        rw [chomp_concat] at ht
        exact htext ⟨t ++ ['\r'], by rw [encode_concat_return, ht]⟩
      · rw [chomp, if_neg hlast] at ht
        exact htext ⟨t, ht⟩
    rw [textOf_eq_answer, answer_of_forall_ne false hchomp, answer_of_forall_ne true (not_exists.mp htext)]

theorem written_cons (piece : Bytes) (pieces : List Bytes) (rest : Bytes) :
    written (piece :: pieces) rest = piece ++ lineFeed :: written pieces rest := by
  simp [written]

theorem lines_written (hpieces : ∀ piece ∈ pieces, lineFeed ∉ piece) (hrest : lineFeed ∉ rest) :
    (lines (written pieces rest)).map textOf = answered pieces rest := by
  induction pieces with
  | nil =>
    show (lines rest).map textOf = if rest = [] then [] else [answer false rest]
    split
    · rename_i hempty
      rw [hempty, lines_nil, List.map_nil]
    · rename_i hne
      rw [lines_unended hrest hne, List.map_singleton, textOf_eq_answer]
  | cons piece pieces ih =>
    obtain ⟨hpiece, hmore⟩ := List.forall_mem_cons.mp hpieces
    rw [written_cons, lines_cons hpiece, List.map_cons, textOf_chomp, ih hmore]
    rfl

theorem gives_written (hpieces : ∀ piece ∈ pieces, lineFeed ∉ piece) (hrest : lineFeed ∉ rest) :
    Gives (written pieces rest) (answered pieces rest) :=
  lines_written hpieces hrest ▸ gives_lines _

theorem intercalate_concat (pieces : List Bytes) (rest : Bytes) :
    [lineFeed].intercalate (pieces ++ [rest]) = written pieces rest := by
  induction pieces with
  | nil => simp [written]
  | cons piece pieces ih =>
    obtain ⟨first, more, hfirst⟩ := List.exists_cons_of_ne_nil (List.append_ne_nil_of_right_ne_nil pieces
      (List.cons_ne_nil rest []))
    rw [written_cons, ← ih, List.cons_append, hfirst, List.intercalate_cons_cons]
    simp

/-- There is one way to see bytes as pieces and a rest. -/
theorem existsUnique_written (bytes : Bytes) : ∃! x : List Bytes × Bytes,
    (∀ piece ∈ x.1, lineFeed ∉ piece) ∧ lineFeed ∉ x.2 ∧ written x.1 x.2 = bytes := by
  obtain ⟨pieces, rest, hsplit⟩ : ∃ pieces rest, bytes.splitOn lineFeed = pieces ++ [rest] :=
    ⟨_, _, (List.dropLast_append_getLast (List.splitOn_ne_nil lineFeed bytes)).symm⟩
  have hfree : ∀ piece ∈ pieces ++ [rest], lineFeed ∉ piece := fun piece hpiece hmem => by
    rw [← hsplit] at hpiece
    simpa using (mem_of_mem_splitOnP hpiece lineFeed hmem).1
  refine ⟨(pieces, rest), ⟨fun piece h => hfree piece (by simp [h]), hfree rest (by simp), ?_⟩, ?_⟩
  · rw [← intercalate_concat, ← hsplit, List.intercalate_splitOn]
  · rintro ⟨pieces', rest'⟩ ⟨hpieces', hrest', rfl⟩
    have hfree' : ∀ piece ∈ pieces' ++ [rest'], lineFeed ∉ piece := by
      simpa [or_imp, forall_and] using ⟨hpieces', hrest'⟩
    have hsame : pieces' ++ [rest'] = pieces ++ [rest] := by
      rw [← hsplit, ← intercalate_concat, List.splitOn_intercalate lineFeed hfree' (by simp)]
    obtain ⟨rfl, hlast⟩ := List.append_inj' hsame rfl
    rw [List.singleton_inj.mp hlast]

/-! ### One piece in place of another -/

theorem answered_set (before after : List Bytes) (piece piece' rest : Bytes) :
    answered (before ++ piece' :: after) rest =
      (answered (before ++ piece :: after) rest).set before.length (answer true piece') := by
  simp [answered]

theorem answered_set_rest {rest rest' : Bytes} (hrest : rest ≠ []) (hrest' : rest' ≠ []) (pieces : List Bytes) :
    answered pieces rest' = (answered pieces rest).set pieces.length (answer false rest') := by
  simp [answered, hrest, hrest']

/-! ### Texts -/

/-- A text and what ends it, which is a line feed with or without a carriage return in front. -/
def ended (line : Text × Bool) : Text :=
  line.1 ++ if line.2 then ['\r', '\n'] else ['\n']

/-- The piece that the text is written as, without the line feed. -/
def pieceOf (line : Text × Bool) : Bytes :=
  Text.encode (if line.2 then line.1 ++ ['\r'] else line.1)

theorem encode_ended (line : Text × Bool) : Text.encode (ended line) = pieceOf line ++ [lineFeed] := by
  obtain ⟨t, crlf⟩ := line
  cases crlf with
  | false =>
    simp [ended, pieceOf, encode]
    rfl
  | true =>
    simp [ended, pieceOf, encode]
    rfl

theorem answer_pieceOf {line : Text × Bool} (h : line.1.getLast? ≠ some '\r') :
    answer true (pieceOf line) = .ok line.1 := by
  obtain ⟨t, crlf⟩ := line
  rw [pieceOf, answer_encode, if_pos rfl]
  cases crlf with
  | false => rw [if_neg nofun, withoutReturn, if_neg h]
  | true => rw [if_pos rfl, withoutReturn_concat]

theorem lineFeed_notMem_pieceOf {line : Text × Bool} (h : '\n' ∉ line.1) : lineFeed ∉ pieceOf line := by
  intro hmem
  obtain ⟨c, hc, hchar⟩ := List.mem_flatMap.mp hmem
  obtain rfl := lineFeed_mem_encodeChar_iff.mp hchar
  split at hc
  · simp [h] at hc
  · exact h hc

theorem encode_flatMap_ended (texts : List (Text × Bool)) :
    Text.encode (texts.flatMap ended) = written (texts.map pieceOf) [] := by
  induction texts with
  | nil => rfl
  | cons line texts ih =>
    have hcons : Text.encode ((line :: texts).flatMap ended) =
        Text.encode (ended line) ++ Text.encode (texts.flatMap ended) := by
      rw [List.flatMap_cons, encode, List.flatMap_append]
      rfl
    rw [hcons, encode_ended, ih, List.map_cons, written_cons, List.append_assoc, List.singleton_append]

theorem gives_texts {texts : List (Text × Bool)}
    (h : ∀ line ∈ texts, '\n' ∉ line.1 ∧ line.1.getLast? ≠ some '\r') :
    Gives (Text.encode (texts.flatMap ended)) (texts.map fun line => .ok line.1) := by
  have hpieces : ∀ piece ∈ texts.map pieceOf, lineFeed ∉ piece := by
    intro piece hpiece
    obtain ⟨line, hline, rfl⟩ := List.mem_map.mp hpiece
    exact lineFeed_notMem_pieceOf (h line hline).1
  have hanswered : answered (texts.map pieceOf) [] = texts.map fun line => .ok line.1 := by
    rw [answered, if_pos rfl, List.append_nil, List.map_map]
    exact List.map_congr_left fun line hline => answer_pieceOf (h line hline).2
  rw [encode_flatMap_ended, ← hanswered]
  exact gives_written hpieces List.not_mem_nil

theorem concludes_next_piece {file : Bytes} (hpiece : lineFeed ∉ piece)
    (h : Ahead s file (piece ++ lineFeed :: behind)) :
    Concludes supply (fun r file' => r.1 = (answer true piece).map some ∧ Ahead r.2 file' behind) file s.next := by
  refine (concludes_next h).mono fun r file' hr => ?_
  rw [ReadLine, firstLine?, cut?_append_lineFeed hpiece] at hr
  rw [← textOf_chomp]
  exact hr

/-- Bytes are in one way pieces with a line feed behind each, and a rest. A source gives an answer for each of the
pieces and for the rest, in their order, and is at the end then. The answer is the text, without a carriage return in
front of the line feed, or an error if there is no such text; in both cases the source goes on right behind the line
feed. One piece in place of another changes the answer for it and no other. So texts without line feeds that do not
end in a carriage return are read back as they were written, with or without a carriage return in front of each line
feed. -/
theorem answers_pieces :
    (∀ bytes, ∃! x : List Bytes × Bytes,
      (∀ piece ∈ x.1, lineFeed ∉ piece) ∧ lineFeed ∉ x.2 ∧ written x.1 x.2 = bytes) ∧
    (∀ pieces rest, (∀ piece ∈ pieces, lineFeed ∉ piece) → lineFeed ∉ rest →
      Gives (written pieces rest) (answered pieces rest)) ∧
    (∀ ended, (∀ t : Text, answer ended t.encode = .ok (if ended then withoutReturn t else t)) ∧
      ∀ piece, (∀ t : Text, t.encode ≠ piece) → answer ended piece = .error .notText) ∧
    (∀ piece behind s file, lineFeed ∉ piece → Ahead s file (piece ++ lineFeed :: behind) →
      Concludes supply (fun r file' => r.1 = (answer true piece).map some ∧ Ahead r.2 file' behind) file s.next) ∧
    (∀ before piece after rest, (∀ p ∈ before ++ piece :: after, lineFeed ∉ p) → lineFeed ∉ rest →
      ∃ all, Gives (written (before ++ piece :: after) rest) all ∧ ∀ piece', lineFeed ∉ piece' →
        Gives (written (before ++ piece' :: after) rest) (all.set before.length (answer true piece'))) ∧
    (∀ pieces rest, (∀ piece ∈ pieces, lineFeed ∉ piece) → lineFeed ∉ rest → rest ≠ [] →
      ∃ all, Gives (written pieces rest) all ∧ ∀ rest', lineFeed ∉ rest' → rest' ≠ [] →
        Gives (written pieces rest') (all.set pieces.length (answer false rest'))) ∧
    (∀ texts : List (Text × Bool), (∀ line ∈ texts, '\n' ∉ line.1 ∧ line.1.getLast? ≠ some '\r') →
      Gives (Text.encode (texts.flatMap ended)) (texts.map fun line => .ok line.1)) := by
  refine ⟨existsUnique_written, fun pieces rest => gives_written, fun ended => ⟨answer_encode ended, fun _ =>
    answer_of_forall_ne ended⟩, fun piece behind s file => concludes_next_piece, ?_, ?_, fun texts => gives_texts⟩
  · intro before piece after rest hpieces hrest
    refine ⟨_, gives_written hpieces hrest, fun piece' hpiece' => ?_⟩
    have hpieces' : ∀ p ∈ before ++ piece' :: after, lineFeed ∉ p := by
      intro p hp
      rcases List.mem_append.mp hp with hp | hp
      · exact hpieces p (List.mem_append_left _ hp)
      · rcases List.mem_cons.mp hp with rfl | hp
        · exact hpiece'
        · exact hpieces p (List.mem_append_right _ (List.mem_cons_of_mem _ hp))
    rw [← answered_set]
    exact gives_written hpieces' hrest
  · intro pieces rest hpieces hrest hne
    refine ⟨_, gives_written hpieces hrest, fun rest' hrest' hne' => ?_⟩
    rw [← answered_set_rest hne hne']
    exact gives_written hpieces hrest'

/-- A line that is no text is one answer, and a carriage return at the very end stays. -/
example (d : Descriptor) :
    let bytes : Bytes := [0x61, 0x0d, 0x0a, 0xff, 0x0a, 0x62, 0x0d]
    let all : List (Except Failure Text) := [.ok ['a'], .error .notText, .ok ['b', '\r']]
    Concludes supply (fun given _ => given = all) [] (ofBytes bytes).answers ∧
      Concludes supply (fun given _ => given = all) bytes (ofDescriptor d).answers := by
  intro bytes all
  have hgives : Gives bytes all := gives_lines _
  exact ⟨hgives _ _ (ahead_ofBytes _), hgives _ _ (ahead_ofDescriptor d _)⟩

end JobShell.Source
