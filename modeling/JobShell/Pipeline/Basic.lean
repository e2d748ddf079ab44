import JobShell.Pipeline.Stage

/-! # Pipelines

A line is a pipeline: stages with bars between them, and a mark `&` at the end if the shell shall not wait.
The mark is the last character of the line, white space behind it apart. A line has as many stages as it has
bars, and one more; limits may cut stages and words off without notice. -/

namespace JobShell

/-- How much of a line is looked at: the number of its stages, and of the words of a stage. -/
structure Limits where
  stages : Nat := 10
  words : Nat := 63
deriving DecidableEq, Repr

/-- Stages in the order of their pipes, and whether they run in the background. -/
structure Pipeline where
  stages : List Stage
  background : Bool
deriving DecidableEq

namespace Pipeline

/-- Takes the mark off the end of a line, and says whether there was one. -/
def splitMark (line : Text) : Text × Bool :=
  if line.trimEnd.getLast? = some '&' then (line.trimEnd.dropLast, true) else (line.trimEnd, false)

/-- Reads a line. -/
def parse (limits : Limits) (line : Text) : Except Failure Pipeline :=
  let (body, background) := splitMark line
  if body.isSpace then .ok ⟨[], background⟩
  else do
    let stages ← (body.segments.take limits.stages).mapM fun s => Stage.parse limits.words s.trimStart
    return ⟨stages, background⟩

/-- How a pipeline is shown, without its mark. -/
def text (p : Pipeline) : Text :=
  Text.join [' ', '|', ' '] (p.stages.map Stage.text)

end Pipeline

end JobShell
