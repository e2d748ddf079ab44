import JobShell.Script.Lexer
import JobShell.Utility.Condition

/-! # What a script works with

The variables, functions, options and traps of a script, its arguments, and the processes that it has started.
A script runs step by step: a step may change this, and may end the script or a part of it. -/

namespace JobShell.Script

open Utility (ascii digits before)

/-- A variable; one without a value is only marked. -/
structure Variable where
  name : Bytes
  value : Option Bytes
  exported : Bool := false
  fixed : Bool := false
deriving Repr

/-- A child process, and how it ended if that is known. -/
structure Child where
  pid : Pid
  report : Option Report := none
deriving Repr

/-- What a script has started in the background: the children of a pipeline, or one. -/
structure Work where
  number : Nat
  children : List Child
  /-- The script has asked how it ended. -/
  known : Bool := false
deriving Repr

/-- What is around the commands of a script. -/
structure Scope where
  name : Bytes
  args : List Bytes
  pid : Pid
  /-- The process that started the script. -/
  parent : Pid
  bindings : List Variable := []
  functions : List (Bytes × Command) := []
  /-- The programs that were found along the search path, with the number of the directory. -/
  located : List (Bytes × Nat) := []
  status : Int := 0
  options : List Char := []
  /-- The line of the command that runs. -/
  line : Nat := 0
  /-- The builtin that runs. -/
  builtin : Option Bytes := none
  documents : List (Nat × Word) := []
  nextDocument : Nat := 0
  /-- How many loops are around the command that runs, in the same function. -/
  loops : Nat := 0
  /-- What local variables have hidden, innermost function first. -/
  hidden : List (List (Bytes × Option Variable)) := []
  /-- What is done when a signal comes; 0 stands for the end of the script. -/
  traps : List (Nat × Bytes) := []
  /-- The signals that have come and were not yet answered. -/
  arrived : List Nat := []
  /-- The status from before the trap that runs. -/
  saved : Option Int := none
  /-- The last child in the background. -/
  last : Option Pid := none
  work : List Work := []
  /-- The status of the last command whose output was taken. -/
  outputStatus : Option Int := none
  /-- What a builtin has written. -/
  written : List Bytes := []
  /-- Where the options of the script are read next: the number of the argument, and the letter in the one
  before it, which is zero if there is none. -/
  optionPlace : Nat × Nat := (1, 0)
  /-- The descriptor that the script is read from. -/
  source : Option Descriptor := none

/-- Why commands do not go on. -/
inductive Stop
  /-- The script ends. -/
  | ended
  /-- Something went wrong, which ends the script unless it was in a builtin that may go wrong. -/
  | failed
  | returned
  /-- A loop ends, or goes on from its beginning; the number is that of the loops around it that end. -/
  | broke (loops : Nat)
  | continued (loops : Nat)
deriving DecidableEq, Repr

/-- A step of a script. -/
abbrev Run := ExceptT Stop (StateT Scope Prog)

namespace Run

/-- Runs a program. -/
def lift {α : Type} (p : Prog α) : Run α :=
  ExceptT.mk fun s => do return (.ok (← p), s)

/-- Makes a call. -/
def perform (c : Call) : Run c.Reply :=
  lift (Prog.perform c)

/-- Asks for a service. -/
def serve (c : Service) : Run c.Reply :=
  lift (Prog.perform (.service c))

/-- Runs `body` again and again, each time with the left value of the time before, until it ends right. -/
def repeated {σ β : Type} (body : σ → Run (σ ⊕ β)) (t : σ) : Run β :=
  ExceptT.mk fun s => Prog.repeated (fun (t, s) => do
    match ← (body t).run s with
    | (.ok (.inl t), s) => return .inl (t, s)
    | (.ok (.inr b), s) => return .inr (.ok b, s)
    | (.error e, s) => return .inr (.error e, s)) (t, s)

/-- Runs a step, and answers how it ended. -/
def attempt {α : Type} (r : Run α) : Run (Except Stop α) :=
  ExceptT.mk fun s => do
    let (result, s) ← r.run s
    return (.ok result, s)

/-- Ends a step as another one ended. -/
def resume {α : Type} : Except Stop α → Run α
  | .ok a => return a
  | .error e => throw e

/-- Says something, with the name of the script and the line. -/
def warn (message : Bytes) : Run Unit := do
  let s ← get
  let command := match s.builtin with
    | some name => name ++ ascii ": "
    | none => []
  lift (Utility.warn (s.name ++ ascii ": " ++ digits s.line ++ ascii ": " ++ command ++ message ++ [10]))

/-- Says what went wrong, and stops. -/
def fail {α : Type} (message : Bytes) : Run α := do
  warn message
  modify fun s => { s with status := 2 }
  throw .failed

/-- Writes to the standard output when the builtin is done. -/
def write (bytes : Bytes) : Run Unit :=
  modify fun s => { s with written := bytes :: s.written }

end Run

/-! ### Variables -/

/-- What separates fields if the script does not say it: blanks and line ends. -/
def usualSeparators : Bytes := [32, 9, 10]

/-- How many groups variables are kept in. -/
def bucketCount : Nat := 39

/-- The group that a variable is kept in. The environment of other programs has the groups in order. -/
def bucket (name : Bytes) : Nat :=
  (name.foldl (fun n b => n + b.toNat) ((name.headD 0).toNat * 16)) % bucketCount

namespace Scope

/-- The variable with a name. -/
def find? (s : Scope) (name : Bytes) : Option Variable :=
  s.bindings.find? fun v => v.name == name

/-- The value of a variable. -/
def value? (s : Scope) (name : Bytes) : Option Bytes :=
  (s.find? name).bind (·.value)

/-- What separates fields. -/
def separators (s : Scope) : Bytes :=
  (s.value? (ascii "IFS")).getD usualSeparators

/-- Whether an option is set. -/
def has (s : Scope) (option : Char) : Bool :=
  s.options.contains option

/-- With a new search path, programs have to be looked for again. -/
def forgetPrograms (s : Scope) (name : Bytes) : Scope :=
  if name = ascii "PATH" then { s with located := [] } else s

/-- Puts a variable in the place of the one with its name, or behind all others. -/
def putVariable (s : Scope) (v : Variable) : Scope :=
  if s.bindings.any fun w => w.name == v.name then
    { s.forgetPrograms v.name with bindings := s.bindings.map fun w => if w.name == v.name then v else w }
  else { s.forgetPrograms v.name with bindings := s.bindings ++ [v] }

/-- Takes a variable away. -/
def dropVariable (s : Scope) (name : Bytes) : Scope :=
  { s.forgetPrograms name with bindings := s.bindings.filter fun v => v.name != name }

/-- The environment of the programs that the script runs. -/
def environment (s : Scope) : List (Bytes × Bytes) :=
  (List.range bucketCount).flatMap fun n =>
    s.bindings.filterMap fun v =>
      match v.exported && bucket v.name = n, v.value with
      | true, some value => some (v.name, value)
      | _, _ => none

/-- The directories that programs are looked for in. -/
def searchPath (s : Scope) : List Bytes :=
  ((s.value? (ascii "PATH")).getD []).splitOnP (· == 58)

end Scope

/-- Sets a variable; `exports` says that it comes into the environment of programs. -/
def setVariable (name value : Bytes) (exports : Bool) : Run Unit := do
  let s ← get
  match s.find? name with
  | some v =>
    if v.fixed then Run.fail (name ++ ascii ": is read only")
    else set (s.putVariable { v with value := some value, exported := v.exported || exports || s.has 'a' })
  | none => set (s.putVariable { name, value := some value, exported := exports || s.has 'a' })
  if name = ascii "OPTIND" then
    modify fun s => { s with optionPlace := ((Utility.readNat? value).getD 1, 0) }

/-- Unsets a variable. -/
def unsetVariable (name : Bytes) : Run Unit := do
  let s ← get
  match s.find? name with
  | some v => if v.fixed then Run.fail (name ++ ascii ": is read only") else set (s.dropVariable name)
  | none => return

/-- The name and the value that a word sets. -/
def splitAssignment (word : Bytes) : Bytes × Bytes :=
  (word.takeWhile (· != 61), (word.dropWhile (· != 61)).drop 1)

/-- A text in single quotes; single quotes in it are in double ones. -/
def inQuotes (text : Bytes) : Bytes :=
  39 :: ((text.splitOnP (· == 39)).intersperse [39, 34, 39, 34, 39]).flatten ++ [39]

/-! ### Names of signals -/

/-- How many signals there are. -/
def signalCount : Nat := 64

/-- The name of a signal. -/
def signalName (n : Nat) : Bytes :=
  if n = 0 then ascii "EXIT"
  else if n = 16 || n = 32 || n = 33 then digits n
  else if n = 34 then ascii "RTMIN"
  else if n = signalCount then ascii "RTMAX"
  else if 34 < n && n < 50 then ascii "RTMIN+" ++ digits (n - 34)
  else if 50 ≤ n && n < signalCount then ascii "RTMAX-" ++ digits (signalCount - n)
  else
    match Signal.table.find? fun r => r.1.number = n with
    | some r => ascii r.2
    | none => digits n

/-- The signal with a name or a number; a name is not that of a signal below `least`. -/
def signalOf? (least : Nat) (text : Bytes) : Option Nat :=
  match Utility.readNat? text with
  | some n => if n ≤ signalCount then some n else none
  | none =>
    let name := text.map Utility.toUpper
    (List.range (signalCount + 1)).find? fun n => least ≤ n && signalName n == name

/-- What is said about a process that a signal has ended. -/
def signalText (n : Nat) : Bytes :=
  let texts : List (Nat × String) :=
    [(1, "Hangup"), (2, "Interrupt"), (3, "Quit"), (4, "Illegal instruction"), (5, "Trace/breakpoint trap"),
     (6, "Aborted"), (7, "Bus error"), (8, "Floating point exception"), (9, "Killed"),
     (10, "User defined signal 1"), (11, "Segmentation fault"), (12, "User defined signal 2"),
     (13, "Broken pipe"), (14, "Alarm clock"), (15, "Terminated"), (16, "Stack fault"),
     (24, "CPU time limit exceeded"), (25, "File size limit exceeded"), (26, "Virtual timer expired"),
     (27, "Profiling timer expired"), (29, "I/O possible"), (30, "Power failure"), (31, "Bad system call")]
  match texts.find? (·.1 = n) with
  | some t => ascii t.2
  | none =>
    if 34 ≤ n then ascii "Real-time signal " ++ digits (n - 34) else ascii "Unknown signal " ++ digits n

end JobShell.Script
