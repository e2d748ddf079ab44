import JobShell.Machine.Files

/-! # The state of a machine

A machine has files, pipes, open files and processes, a clock, and a terminal if the shell has one. An open
file belongs to all descriptors that were copied from the one it was opened under. Beside that, the machine
keeps what the threads of a shell share: the job table, the notices for the reaper, and the output. -/

namespace JobShell.Machine

/-- What an open file leads to. -/
inductive Target
  | node (n : NodeId)
  | reader (pipe : Nat)
  | writer (pipe : Nat)
  | terminal
deriving DecidableEq, Repr

/-- An open file. -/
structure OpenFile where
  target : Target
  offset : Nat
  reads : Bool
  writes : Bool
  /-- Everything is written at the end. -/
  appends : Bool
deriving Repr

/-- What is in a pipe, and how many ends were ever opened by the name of a fifo. -/
structure Pipe where
  bytes : Bytes := []
  readersSeen : Nat := 0
  writersSeen : Nat := 0
deriving Repr

/-- How many bytes a pipe holds, and how many are written all at once. -/
def Pipe.capacity : Nat := 65536

def Pipe.atomic : Nat := 4096

/-- An entry in the descriptor table of a process. -/
structure Entry where
  descriptor : Descriptor
  file : Nat
  closedByExecute : Bool
deriving Repr

/-- How a process ended; a signal is given by its number. -/
inductive Ending
  | exited (code : Int)
  | signaled (signal : Nat)
deriving DecidableEq, Repr

inductive Phase
  | running
  | stopped (signal : Nat)
  /-- The process has ended and was not collected. -/
  | ended (ending : Ending)
deriving DecidableEq, Repr

/-- A fifo whose other end a process waits for. -/
structure Opening where
  pipe : Nat
  reads : Bool
  /-- How many other ends had been opened when the waiting began. -/
  seen : Nat
deriving Repr

/-- The notices for the reaper. Notices of one kind count as one. -/
structure Notices where
  childChanged : Bool := false
  interrupt : Bool := false
  closed : Bool := false
  /-- The reaper is there. -/
  watched : Bool := false
deriving Repr

/-- What the threads of a shell share. -/
structure Memory where
  /-- The job table, if no thread has taken it. -/
  jobs : Option JobTable := some .empty
  notices : Notices := {}
  /-- What the shell has printed, if it is kept and not written to the standard output. -/
  printed : Option Text := none
  /-- What the shell has printed and is still to be written to the standard output. -/
  unwritten : Bytes := []
  /-- A text is being printed and is among what is still to be written. -/
  printing : Bool := false
deriving Repr

structure Process where
  pid : Nat
  parent : Nat
  group : Nat
  /-- The process leads its session. -/
  leader : Bool := false
  phase : Phase := .running
  table : List Entry
  /-- Descriptors are numbered below this limit. -/
  limit : Nat := 1024
  directory : NodeId
  environment : List (Bytes × Bytes)
  /-- The permissions that created files do not get. -/
  mask : Nat := 0
  /-- Signals that do not have their default meaning: ignored ones, and those that become notices. -/
  ignored : List Nat := []
  caught : List Nat := []
  /-- Signals that are noted when they come, and those that have come. -/
  noting : List Nat := []
  noted : List Nat := []
  blocked : List Nat := []
  pending : List Nat := []
  /-- The process has become another program since it was forked. -/
  executed : Bool := false
  opening : Option Opening := none
  /-- When the process wakes up. -/
  alarm : Option Nat := none
  memory : Memory := {}
deriving Repr

def Process.ended (p : Process) : Bool :=
  match p.phase with
  | .ended _ => true
  | _ => false

def Process.isStopped (p : Process) : Bool :=
  match p.phase with
  | .stopped _ => true
  | _ => false

/-- A line that was entered at a terminal, or what is left of it. -/
structure Entered where
  bytes : Bytes
  /-- The line was ended by the end of the input, and not by a line feed. -/
  final : Bool
deriving Repr

/-- A terminal: the line that is typed, the lines that were entered, and the foreground group. -/
structure Terminal where
  typed : Bytes := []
  /-- The next key is a character, whatever it is. -/
  literal : Bool := false
  entered : List Entered := []
  /-- Keys that were pressed when there was no room for them. -/
  waiting : Bytes := []
  foreground : Nat
deriving Repr

structure State where
  tree : Tree
  files : Array OpenFile := #[]
  pipes : Array Pipe := #[]
  /-- The processes in the order in which they were made. -/
  processes : List Process := []
  /-- The number that the next process gets if it is free. -/
  nextPid : Nat := 100
  /-- The time in nanoseconds. -/
  clock : Nat := 0
  terminal : Option Terminal := none
deriving Repr

namespace State

/-- The process with a number. -/
def process? (s : State) (pid : Nat) : Option Process :=
  s.processes.find? fun p => p.pid == pid

/-- What a process is doing. -/
def phase? (s : State) (pid : Nat) : Option Phase :=
  (s.process? pid).map fun p => p.phase

/-- Changes a process. -/
def update (s : State) (pid : Nat) (f : Process → Process) : State :=
  { s with processes := s.processes.map fun p => if p.pid = pid then f p else p }

/-- What a process has in its memory as a shell. -/
def memory (s : State) (pid : Nat) : Memory :=
  ((s.process? pid).map fun p => p.memory).getD {}

/-- Changes what a process has in its memory as a shell. -/
def updateMemory (s : State) (pid : Nat) (f : Memory → Memory) : State :=
  s.update pid fun p => { p with memory := f p.memory }

/-- The entry of a descriptor. -/
def entry? (s : State) (pid : Nat) (d : Descriptor) : Option Entry :=
  (s.process? pid).bind fun p => p.table.find? fun e => e.descriptor == d

/-- The number of the open file of a descriptor, with the file. -/
def file? (s : State) (pid : Nat) (d : Descriptor) : Option (Nat × OpenFile) :=
  (s.entry? pid d).bind fun e => s.files[e.file]?.map fun f => (e.file, f)

/-- The lowest free number of a table, below a limit. -/
def freeFrom (table : List Entry) : Nat → Descriptor → Option Descriptor
  | 0, _ => none
  | left + 1, d => if table.any fun e => e.descriptor == d then freeFrom table left (d + 1) else some d

/-- The lowest free descriptor of a process from `least` on. -/
def freeAbove? (p : Process) (least : Descriptor) : Option Descriptor :=
  freeFrom p.table (p.limit - least) least

/-- The lowest free descriptor of a process. -/
def free? (p : Process) : Option Descriptor :=
  freeAbove? p 0

/-- Enters an open file into the table of a process. -/
def enter (s : State) (pid : Nat) (e : Entry) : State :=
  s.update pid fun p => { p with table := e :: p.table.filter fun o => o.descriptor != e.descriptor }

/-- Opens a file under the lowest free descriptor. -/
def install (s : State) (pid : Nat) (f : OpenFile) (closedByExecute : Bool) :
    Except Errno (Descriptor × State) :=
  match (s.process? pid).bind free? with
  | none => .error .tooManyOpen
  | some d =>
    let s' := { s with files := s.files.push f }
    .ok (d, s'.enter pid ⟨d, s.files.size, closedByExecute⟩)

/-- Whether some process has an end of a pipe open, or is about to. -/
def hasEnd (s : State) (pipe : Nat) (reads : Bool) : Bool :=
  let target := if reads then Target.reader pipe else Target.writer pipe
  s.processes.any fun p =>
    (p.table.any fun e => (s.files[e.file]?.map (·.target)) == some target) ||
      match p.opening with
      | some o => o.pipe == pipe && o.reads == reads
      | none => false

/-- Changes a pipe. -/
def updatePipe (s : State) (pipe : Nat) (f : Pipe → Pipe) : State :=
  { s with pipes := s.pipes.modify pipe f }

/-- Whether a group has no process whose parent belongs to another group. Such a group is not stopped from the
keyboard, as nobody could make it go on. -/
def isOrphaned (s : State) (group : Nat) : Bool :=
  !s.processes.any fun p => p.group == group && (s.process? p.parent).any fun q => q.group != group

/-- Whether there is a group, which processes that were not collected still belong to. -/
def hasGroup (s : State) (group : Nat) : Bool :=
  s.processes.any fun p => p.group == group

/-- Processes are numbered below this limit, and behind the last number they start again at `reusedFrom`. -/
def pidLimit : Nat := 4096

def reusedFrom : Nat := 300

/-- The next number that is neither that of a process nor that of a group. -/
def freePid? (s : State) : Nat → Nat → Option Nat
  | 0, _ => none
  | left + 1, n =>
    let pid := if n < pidLimit then n else reusedFrom
    if s.processes.any fun p => p.pid == pid || p.group == pid then freePid? s left (pid + 1) else some pid

end State

end JobShell.Machine
