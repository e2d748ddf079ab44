import JobShell.CommandLine
import JobShell.Machine.World

/-! # The program

Runs the shell on a machine of its own, with the arguments, the standard input and the settings of this
process, and hands on what it writes and its exit code. -/

namespace JobShell

/-- The variables of the environment that the shell looks at. -/
def watchedVariables : List String :=
  ["PISH_PROMPT", "PISH_HISTFILE", "PISH_HISTSIZE", "PISH_RC", "PISH_MAX_STAGES", "PISH_MAX_TOKENS", "TERM"]

/-- Reads an input to its end. -/
partial def readInput (input : IO.FS.Stream) (sofar : ByteArray) : IO ByteArray := do
  let block ← input.read 65536
  if block.isEmpty then return sofar else readInput input (sofar ++ block)

end JobShell

open JobShell JobShell.Machine in
/-- Runs the shell. -/
def main (args : List String) : IO UInt32 := do
  let input ← readInput (← IO.getStdin) ByteArray.empty
  let settings ← watchedVariables.filterMapM fun name => do
    return (← IO.getEnv name).map fun value => (Utility.ascii name, Utility.ascii value)
  let environment := (Utility.ascii "PATH", Utility.ascii "/usr/bin:/bin") ::
    (Utility.ascii "HOME", scratchPath) :: settings
  let world := World.start {} [] environment (.bytes input.toList)
  let (code, world) := world.run (CommandLine.run (args.map String.toList))
  let (output, error, _) := world.look
  (← IO.getStdout).write (ByteArray.mk output.toArray)
  (← IO.getStderr).write (ByteArray.mk error.toArray)
  return (code.getD 1).toNat.toUInt32
