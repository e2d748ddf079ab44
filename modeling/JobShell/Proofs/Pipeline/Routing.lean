import JobShell.Proofs.Pipeline.Limits
import JobShell.Shell

/-! # Lines that ask for a builtin

Only a lone stage asks for a builtin. A line with a bar has two segments at least, so a lone stage is left of it only if
the limits let no other through. -/

namespace JobShell.Pipeline
open Text

variable {limits : Limits} {line : Text} {p : Pipeline} {stage : Stage}

theorem command_of_lone_stage (h : p.stages = [stage]) (b : Builtin) (args : List Text) :
    p.command = .builtin b args ↔ Builtin.ofName? stage.name = some b ∧ args = stage.args.tail := by
  simp only [command, h]
  cases Builtin.ofName? stage.name with
  | none => simp
  | some b' =>
    simp only [Command.builtin.injEq, Option.some.injEq]
    exact and_congr_right fun _ => eq_comm

theorem command_of_several_stages (h : 2 ≤ p.stages.length) : p.command = .external p := by
  unfold command
  split
  · rename_i hlone
    rw [hlone, List.length_singleton] at h
    omega
  · rfl

theorem bar_mem_body (h : '|' ∈ line) : '|' ∈ body line := by
  obtain ⟨before, after, rfl⟩ := List.append_of_mem h
  rw [body_append_bar]
  exact List.mem_append_right _ List.mem_cons_self

theorem isSpace_of_bar_mem (h : '|' ∈ line) : line.isSpace = false :=
  List.all_eq_false.mpr ⟨'|', h, by decide⟩

/-- There is a stage for each segment that the limits let through. -/
theorem length_stages_of_bar_mem (h : '|' ∈ line) (hp : parse limits line = .ok p) :
    p.stages.length = min limits.stages ((body line).count '|' + 1) := by
  have hasking : asking limits line = looked limits line := by
    rw [asking, isSpace_of_bar_mem (bar_mem_body h)]
    rfl
  have hread : (looked limits line).mapM Stage.ofWords = .ok p.stages := hasking ▸ (parse_eq_ok_iff.mp hp).1
  rw [← (mapM_eq_ok_iff.mp hread).length_eq, looked, List.length_map, List.length_take, length_splitOn]

theorem two_le_length_stages (h : '|' ∈ line) (hp : parse limits line = .ok p) (hne : p.stages ≠ [])
    (hlimit : limits.stages ≠ 1) : 2 ≤ p.stages.length := by
  have hlength := length_stages_of_bar_mem h hp
  have hbars : 0 < (body line).count '|' := List.count_pos_iff.mpr (bar_mem_body h)
  have hpos : 0 < p.stages.length := List.length_pos_iff.mpr hne
  omega

theorem exists_lone_stage (h : '|' ∈ line) (hp : parse limits line = .ok p) (hlimit : limits.stages = 1) :
    ∃ stage, p.stages = [stage] := by
  have hlength := length_stages_of_bar_mem h hp
  exact List.length_eq_one_iff.mp (by omega)

end JobShell.Pipeline
