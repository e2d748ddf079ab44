import JobShell.Proofs.Config.Override
import JobShell.Proofs.Text.Utf8

/-! # Files below the home directory

A tilde in front of a path stands for the home directory, so that the path leads to a file below it. This is so unless
the path goes on with a slash: then it is a path from the root, and the home directory is dropped. -/

namespace JobShell

namespace Path
variable {base rest : Bytes}

/-- The path that goes on from the directory `base` with `rest`, whatever `rest` is. -/
def below (base rest : Bytes) : Bytes :=
  base ++ if base = [] ∨ base.getLast? = some slash then rest else slash :: rest

/-- The names along a path. -/
def names (path : Bytes) : List Bytes := (path.splitOn slash).filter (· ≠ [])

/-- The path begins where the directory `base` does, and goes along all its names. The names are taken as they are
written: `..` is a name like any other, so that a path with such a name may still lead out of the directory. -/
def Under (base path : Bytes) : Prop :=
  (path.head? = some slash ↔ base.head? = some slash) ∧ names base <+: names path

instance (base path : Bytes) : Decidable (Under base path) :=
  inferInstanceAs (Decidable (_ ∧ _))

theorem join_of_root (h : rest.head? = some slash) : join base rest = rest :=
  if_pos h

theorem join_eq_below (h : rest.head? ≠ some slash) : join base rest = below base rest := by
  simp only [join, below, if_neg h, Bool.or_eq_true, List.isEmpty_iff, decide_eq_true_eq]
  split <;> rfl

/-- In front of a path from the root, nothing can be left out but nothing. -/
theorem below_eq_self_iff : below base rest = rest ↔ base = [] := by
  constructor
  · intro h
    have hlength := congrArg List.length h
    unfold below at hlength
    split at hlength
    · exact List.length_eq_zero_iff.mp (by simpa using hlength)
    · simp at hlength
      omega
  · rintro rfl
    simp [below]

theorem join_eq_below_iff : join base rest = below base rest ↔ base = [] ∨ rest.head? ≠ some slash := by
  by_cases hroot : rest.head? = some slash
  · rw [join_of_root hroot, eq_comm, below_eq_self_iff]
    simp [hroot]
  · exact iff_of_true (join_eq_below hroot) (Or.inr hroot)

theorem names_append_slash (first rest : Bytes) : names (first ++ slash :: rest) = names first ++ names rest := by
  rw [names, List.splitOn_append_cons_self, List.filter_append, names, names]

theorem names_below (base rest : Bytes) : names (below base rest) = names base ++ names rest := by
  unfold below
  split
  · rename_i h
    rcases h with rfl | h
    · rfl
    · obtain ⟨first, rfl⟩ := List.getLast?_eq_some_iff.mp h
      have hfirst : names (first ++ [slash]) = names first := by
        rw [names_append_slash]
        exact List.append_nil _
      rw [List.append_assoc, List.singleton_append, names_append_slash, hfirst]
  · exact names_append_slash base rest

theorem under_below (h : rest.head? ≠ some slash) : Under base (below base rest) := by
  refine ⟨?_, names_below base rest ▸ List.prefix_append _ _⟩
  cases base with
  | nil => simp [below, h]
  | cons c base => simp [below]

/-- A text begins with a slash exactly if its bytes do. -/
theorem head?_encode_iff {t : Text} : t.encode.head? = some slash ↔ t.head? = some '/' := by
  cases t with
  | nil => simp [Text.encode]
  | cons c t =>
    have hne : String.utf8EncodeChar c ≠ [] := List.ne_nil_of_length_pos <| by
      rw [String.length_utf8EncodeChar]
      exact Char.utf8Size_pos c
    have hhead : (Text.encode (c :: t)).head? = (String.utf8EncodeChar c).head? := by
      rw [Text.encode, List.flatMap_cons, List.head?_append_of_ne_nil _ hne]
    rw [hhead, List.head?_cons, Option.some.injEq]
    constructor
    · intro h
      exact ((Text.ascii_mem_encodeChar_iff (d := '/') (by decide)).mp (List.mem_of_head? h)).symm
    · rintro rfl
      rfl

end Path

theorem Setting.isFile_iff {s : Setting} : s.isFile = true ↔ s = .historyFile ∨ s = .startupFile := by
  cases s <;> decide

namespace Config

/-- A setting for a file whose variable has a tilde in front names a file below the home directory, unless the path goes
on with a slash. With one it is the path behind the tilde's slash, whatever the home directory is. Below the directory
means that the path is written so: a name `..` in the rest is kept as it is. -/
theorem tilde_below_iff (home : Bytes) (c : Config) {lookup : Text → Option Text} {s : Setting} {rest : Text}
    (hs : s.isFile = true) (hlookup : lookup s.key = some ('~' :: '/' :: rest)) :
    ((override (some home) lookup c).value s = .file (some (Path.below home rest.encode)) ↔
      home = [] ∨ rest.head? ≠ some '/') ∧
    (rest.head? ≠ some '/' → Path.Under home (Path.below home rest.encode)) ∧
    (rest.head? = some '/' → (override (some home) lookup c).value s = .file (some rest.encode)) := by
  have hvalue : (override (some home) lookup c).value s = .file (some (Path.join home rest.encode)) := by
    rw [value_override, hlookup]
    rcases Setting.isFile_iff.mp hs with rfl | rfl <;> rfl
  have hhead : rest.head? = some '/' ↔ rest.encode.head? = some Path.slash := Path.head?_encode_iff.symm
  rw [hvalue, ne_eq, hhead]
  refine ⟨?_, Path.under_below, fun hroot => by rw [Path.join_of_root hroot]⟩
  rw [Setting.Value.file.injEq, Option.some.injEq, Path.join_eq_below_iff]

theorem tilde_below_hidden : Setting.startupFile.isFile = true ∧
    textIn? [(Text.encode "PISH_RC".toList, Text.encode "~/.rc".toList)] Setting.startupFile.key =
      some ('~' :: '/' :: ".rc".toList) ∧
    (override (some (Text.encode "/home/u".toList))
      (textIn? [(Text.encode "PISH_RC".toList, Text.encode "~/.rc".toList)]) (standard none)).value .startupFile =
        .file (some (Text.encode "/home/u/.rc".toList)) ∧
    Path.Under (Text.encode "/home/u".toList) (Text.encode "/home/u/.rc".toList) := by
  have hfile : Setting.startupFile.isFile = true := rfl
  have hvalue : valueIn? [(Text.encode "PISH_RC".toList, Text.encode "~/.rc".toList)] Setting.startupFile.key =
      some (Text.encode "~/.rc".toList) := by decide
  have hlookup : textIn? [(Text.encode "PISH_RC".toList, Text.encode "~/.rc".toList)] Setting.startupFile.key =
      some ('~' :: '/' :: ".rc".toList) := by
    rw [textIn?, hvalue, Option.bind_some, Text.decode?_encode]
    decide
  have hroot : ".rc".toList.head? ≠ some '/' := by decide
  obtain ⟨hfound, hunder, -⟩ := tilde_below_iff (Text.encode "/home/u".toList) (standard none) hfile hlookup
  exact ⟨hfile, hlookup, hfound.mpr (Or.inr hroot), hunder hroot⟩

/-- A second slash behind the tilde drops the home directory. -/
theorem tilde_not_below :
    (override (some (Text.encode "/home/u".toList)) (fun key =>
      if key = "PISH_HISTFILE".toList then some "~//notes".toList else none) (standard none)).value
        .historyFile = .file (some (Text.encode "/notes".toList)) ∧
    Path.below (Text.encode "/home/u".toList) (Text.encode "/notes".toList) = Text.encode "/home/u//notes".toList ∧
    ¬ Path.Under (Text.encode "/home/u".toList) (Text.encode "/notes".toList) := by
  decide

end Config

end JobShell
