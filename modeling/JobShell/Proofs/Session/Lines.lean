import JobShell.Proofs.Prog.Trace
import JobShell.Session.Source
import Mathlib.Data.List.Basic
import Mathlib.Data.List.TakeWhile

/-! # The lines of bytes

What a source gives that has all its bytes from the start: its lines one after the other, and nothing behind them. No
call is made for that. -/

namespace JobShell.Source

/-- The lines of bytes. What is behind the last line feed is a line if it is not empty, and it keeps a carriage return at
its end. -/
def lines (bytes : Bytes) : List Bytes :=
  let pieces := bytes.splitOn lineFeed
  pieces.dropLast.map chomp ++ pieces.getLast?.toList.filter (· ≠ [])

variable {bytes line rest : Bytes}

theorem lines_nil : lines [] = [] := rfl

theorem lines_unended (h : lineFeed ∉ bytes) (hne : bytes ≠ []) : lines bytes = [bytes] := by
  rw [lines, List.splitOn_eq_singleton h]
  simp [hne]

/-- The lines in front of a line feed do not depend on what is behind it. -/
theorem lines_lineFeed (first rest : Bytes) :
    lines (first ++ lineFeed :: rest) = (first.splitOn lineFeed).map chomp ++ lines rest := by
  have hne : rest.splitOn lineFeed ≠ [] := List.splitOn_ne_nil lineFeed rest
  simp only [lines, List.splitOn_append_cons_self, List.dropLast_append_of_ne_nil hne,
    List.getLast?_append_of_ne_nil _ hne, List.map_append, List.append_assoc]

theorem lines_cons (h : lineFeed ∉ line) (rest : Bytes) :
    lines (line ++ lineFeed :: rest) = chomp line :: lines rest := by
  rw [lines_lineFeed, List.splitOn_eq_singleton h, List.map_singleton, List.singleton_append]

/-- Behind the end of a line, the lines go on as if nothing were in front. -/
theorem lines_append (h : bytes = [] ∨ bytes.getLast? = some lineFeed) (rest : Bytes) :
    lines (bytes ++ rest) = lines bytes ++ lines rest := by
  rcases h with rfl | h
  · rfl
  · obtain ⟨first, rfl⟩ := List.getLast?_eq_some_iff.mp h
    rw [List.append_assoc, List.singleton_append, lines_lineFeed, lines_lineFeed, lines_nil, List.append_nil]

theorem cut?_eq_none_iff : cut? bytes = none ↔ lineFeed ∉ bytes := by
  have hnone : cut? bytes = none ↔ bytes.dropWhile (· != lineFeed) = [] := by
    unfold cut?
    split <;> simp_all
  rw [hnone, List.dropWhile_eq_nil_iff]
  constructor
  · exact fun h hmem => absurd (h lineFeed hmem) (by simp)
  · exact fun h b hb => bne_iff_ne.mpr fun he => h (he ▸ hb)

theorem eq_of_cut? (h : cut? bytes = some (line, rest)) : lineFeed ∉ line ∧ bytes = line ++ lineFeed :: rest := by
  unfold cut? at h
  split at h
  · cases h
  · rename_i b tail hd
    obtain ⟨rfl, rfl⟩ : bytes.takeWhile (· != lineFeed) = line ∧ tail = rest := by simpa using h
    have hb : b = lineFeed := by
      have := List.head_dropWhile_not (· != lineFeed) (l := bytes) (by simp [hd])
      simpa [hd] using this
    refine ⟨fun hmem => ?_, ?_⟩
    · simpa using List.mem_takeWhile_imp hmem
    · calc bytes = bytes.takeWhile (· != lineFeed) ++ bytes.dropWhile (· != lineFeed) :=
            List.takeWhile_append_dropWhile.symm
        _ = bytes.takeWhile (· != lineFeed) ++ lineFeed :: tail := by rw [hd, hb]

/-- The first of the lines, and the bytes behind it. -/
def firstLine? (bytes : Bytes) : Option (Bytes × Bytes) :=
  match cut? bytes with
  | some (line, rest) => some (chomp line, rest)
  | none => if bytes = [] then none else some (bytes, [])

theorem lines_of_none (h : firstLine? bytes = none) : lines bytes = [] := by
  unfold firstLine? at h
  split at h
  · cases h
  · split at h
    · rename_i hbytes
      rw [hbytes, lines_nil]
    · cases h

theorem lines_of_some (h : firstLine? bytes = some (line, rest)) : lines bytes = line :: lines rest := by
  unfold firstLine? at h
  split at h
  · rename_i first rest' hcut
    cases h
    obtain ⟨hfirst, rfl⟩ := eq_of_cut? hcut
    exact lines_cons hfirst rest
  · rename_i hcut
    split at h
    · cases h
    · rename_i hne
      cases h
      rw [lines_unended (cut?_eq_none_iff.mp hcut) hne, lines_nil]

theorem length_lt_of_some (h : firstLine? bytes = some (line, rest)) : rest.length < bytes.length := by
  unfold firstLine? at h
  split at h
  · rename_i first rest' hcut
    cases h
    rw [(eq_of_cut? hcut).2, List.length_append, List.length_cons]
    omega
  · split at h
    · cases h
    · rename_i hne
      cases h
      exact List.length_pos_iff.mpr hne

/-- What a source gives next, with all its bytes there. -/
def afterFirst (bytes : Bytes) : Except Failure (Option Text) × Source :=
  match firstLine? bytes with
  | some (line, rest) => ((textOf line).map some, ofBytes rest)
  | none => (.ok none, ofBytes [])

theorem next_unfolds (bytes : Bytes) : (ofBytes bytes).next.Unfolds (.done (afterFirst bytes)) := by
  unfold afterFirst firstLine?
  cases hcut : cut? bytes with
  | some cut =>
    refine (Prog.Unfolds.bind_left .unroll _).trans ?_
    simp only [Prog.unroll, ofBytes, hcut]
    exact .refl _
  | none =>
    refine (Prog.Unfolds.bind_left .unroll _).trans ?_
    by_cases hbytes : bytes = []
    · subst hbytes
      exact .refl _
    · simp only [Prog.unroll, ofBytes, hcut, if_neg hbytes, List.isEmpty_eq_false_iff.mpr hbytes]
      exact .refl _

end JobShell.Source
