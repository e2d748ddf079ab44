import JobShell.Kernel.Prog
import JobShell.Launch.Invocation

/-! # The child of a launch

The shell forks once for each stage. The child joins its process group, puts the pipe ends and then the files
of its stage in the place of its standard input and output, gives its signals their default meaning, and
becomes the program. If it cannot, it says so on its standard error and exits: with 1 if a stream could not be
put in its place, with 127 if the program could not be run. It never goes on with the work of the shell. -/

namespace JobShell

/-- What a child gets from the shell beside its program. -/
structure Wiring where
  /-- The end of the pipe from the stage before. -/
  input : Option Descriptor
  /-- The end of the pipe to the stage after. -/
  output : Option Descriptor
  /-- The other end of the pipe to the stage after, which the child has no use for. -/
  spare : Option Descriptor
  /-- The process group to join; 0 stands for a new group that the child leads. -/
  group : Option Pid
deriving DecidableEq, Repr

namespace Child

/-- The standard streams. -/
def standardInput : Descriptor := 0
def standardOutput : Descriptor := 1
def standardError : Descriptor := 2

/-- The permissions of a file that a redirection creates. -/
def createdMode : Nat := 0o644

/-- The signals that a program starts with in their default meaning. -/
def defaultSignals : List Signal :=
  [.interrupt, .quit, .terminalStop, .terminalInput, .terminalOutput, .child, .pipe]

/-- Puts an open file into the place of another descriptor. -/
def move (source target : Descriptor) : Prog (Except Errno Unit) :=
  if source = target then return .ok ()
  else do
    match ← Prog.perform (.duplicate source target) with
    | .error e => return .error e
    | .ok _ => Prog.perform (.close source)

/-- Opens a file in the place of another descriptor. -/
def openAs (path : Bytes) (access : Access) (target : Descriptor) : Prog (Except Errno Unit) := do
  match ← Prog.perform (.openFile path access) with
  | .error e => return .error e
  | .ok d => move d target

/-- What could not be put in its place, and why. -/
structure Misplaced where
  what : Bytes
  reason : Errno
deriving DecidableEq, Repr

/-- A step that is left out if there is nothing to put in place. -/
def place {α : Type} (what : α → Bytes) (step : α → Prog (Except Errno Unit)) :
    Option α → ExceptT Misplaced Prog Unit
  | none => pure ()
  | some a => ExceptT.mk do
    match ← step a with
    | .ok _ => return .ok ()
    | .error e => return .error ⟨what a, e⟩

/-- Puts the standard streams in place: the pipe ends first, and the files in front of them. -/
def placeStreams (i : Invocation) (w : Wiring) : ExceptT Misplaced Prog Unit := do
  place (fun _ => i.name) (move · standardInput) w.input
  place (fun _ => i.name) (move · standardOutput) w.output
  place id (openAs · .reading standardInput) i.input
  place id (openAs · (.replacing createdMode) standardOutput) i.output

/-- What a child says about the step that failed, in the parts in which it is written. -/
def complaint (what : Bytes) (reason : Text) : List Bytes :=
  [Text.encode "pish: ".toList, what, Text.encode ": ".toList, reason.encode, Text.encode ['\n']]

/-- Says what went wrong and exits. It does not matter if a part cannot be written. -/
def die (what : Bytes) (reason : Text) (code : Int) : Prog Empty := do
  (complaint what reason).forM fun part => do
    let _ ← Prog.perform (.write standardError part)
  Prog.perform (.exit code)

/-- Why a program could not be run. -/
def executeReason (e : Errno) : Text :=
  if e = .noEntry then "command not found".toList else e.description

/-- Joins the process group and closes what the child has no use for; it does not matter if this fails. -/
def settle (w : Wiring) : Prog Unit := do
  if let some group := w.group then
    let _ ← Prog.perform (.setGroup 0 group)
  if let some spare := w.spare then
    let _ ← Prog.perform (.close spare)

/-- Becomes the program. -/
def becomeProgram (i : Invocation) : Prog Empty := do
  defaultSignals.forM fun s => Prog.perform (.defaultSignal s)
  Prog.perform .unblockSignals
  let e ← Prog.perform (.execute i.argv)
  die i.name (executeReason e) 127

/-- All that a child does. -/
def run (i : Invocation) (w : Wiring) : Prog Empty := do
  settle w
  match ← (placeStreams i w).run with
  | .error m => die m.what m.reason.description 1
  | .ok _ => becomeProgram i

end Child

end JobShell
