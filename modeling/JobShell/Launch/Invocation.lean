import JobShell.Failure
import JobShell.Kernel.Call
import JobShell.Pipeline.Stage

/-! # Invocations

An invocation is a stage in the form in which the kernel takes it: arguments and paths as bytes, which hold no
zero byte. Everything is put into this form before the first process is made. -/

namespace JobShell

/-- The arguments of a program and the paths of its redirections, as bytes. -/
structure Invocation where
  argv : List Bytes
  input : Option Bytes
  output : Option Bytes
deriving DecidableEq, Repr

namespace Invocation

/-- The bytes of a text for the kernel. -/
def bytes (t : Text) : Except Failure Bytes :=
  if '\x00' ∈ t then .error (.nulByte t) else .ok t.encode

/-- The bytes of a path that may be missing. -/
def path : Option Text → Except Failure (Option Bytes)
  | none => .ok none
  | some t => (bytes t).map some

/-- Puts a stage into bytes: its arguments in their order, then the path of its input, then of its output. -/
def ofStage (s : Stage) : Except Failure Invocation := do
  let argv ← s.args.mapM bytes
  let input ← path s.input
  let output ← path s.output
  return ⟨argv, input, output⟩

/-- The name of the program. -/
def name (i : Invocation) : Bytes :=
  i.argv.headD []

end Invocation

end JobShell
