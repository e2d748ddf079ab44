import JobShell.Proofs.Estate.Failing

/-! # Lines that the interpreter writes

A line is written as a whole, or it is noted that the output was refused somewhere in it. -/

namespace JobShell.Estate

variable {reaper : Prop} {k : State × List Noted} {text : Text}

/-- What became of a text that was written. -/
inductive Printed (text : Text) (s : State) (notes : List Noted) : Except Failure Unit → State × List Noted → Prop
  | whole : Printed text s notes (.ok ()) ({ s with output := s.output ++ text }, notes)
  | muted {part : Text} {f : Failure} (h : part <+: text) :
      Printed text s notes (.error f) ({ s with output := s.output ++ part }, notes ++ [.muted])

theorem ensures_printLine_printed (line : Text) (k : State × List Noted) :
    (Builtin.printLine line).run.Ensures (contract reaper) (fun r k' => ∃ s, (world reaper).Drifts k.1 s ∧
      Printed (line ++ ['\n']) s k.2 r k') k := by
  refine Prog.ensures_perform (Surroundings.noting_pre fun s hs => ⟨⟨s, .ok (), _, .refl, rfl⟩, fun r s' ha =>
    ⟨s', .refl, ?_⟩⟩)
  cases r with
  | ok _ =>
    obtain rfl := ha
    rw [show note (.print (line ++ ['\n'])) (.ok ()) = none from rfl, Option.toList_none, List.append_nil]
    exact Prog.ensures_pure ⟨s, hs, .whole⟩
  | error e =>
    obtain ⟨part, hpart, rfl⟩ := ha
    exact Prog.ensures_pure ⟨s, hs, .muted hpart⟩

end JobShell.Estate
