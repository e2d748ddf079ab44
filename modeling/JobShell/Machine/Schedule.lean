import JobShell.Machine.Execute
import JobShell.Reaper

/-! # Running programs on a machine

A machine runs the program of the shell, the reaper if there is one, and one program for each other process.
The shell goes first and goes on until it has to wait; then the reaper and the other processes have a turn
each, in the order in which they were made. If the shell goes on for long, it is interrupted, and the others have a few
turns as well. The clock moves on with the turns, and when all wait it moves to the next time at which a process
wakes up. So a run is determined by its beginning. -/

namespace JobShell.Machine

/-- A process that runs a program, with a reaper beside it if it is a shell that has one. -/
structure Thread where
  pid : Nat
  program : Prog Unit
  reaper : Option (Prog Unit) := none

/-- What comes of one step of a program. -/
inductive Step (α : Type) : Type 1 where
  | moved (s : State) (p : Prog α)
  /-- The program goes on, and so does another one in a new process. -/
  | forked (s : State) (p : Prog α) (child : Thread)
  /-- The reaper is to be started beside the program. -/
  | watched (s : State) (p : Prog α)
  | waits (s : State)
  | gone (s : State)
  /-- The process goes on as another program. -/
  | became (s : State) (p : Prog Unit)
  | finished (a : α)

/-- One step of a program in a process. -/
def step {α : Type} (s : State) (pid : Nat) : Prog α → Step α
  | .done a => .finished a
  | .loop body t next => .moved s (Prog.unroll body t next)
  | .call .fork next =>
    match s.perform pid .fork with
    | .reply (.ok (.parent child)) s =>
      .forked s (next (.ok (.parent child))) { pid := child.toNat, program := (next (.ok .child)).bind fun _ => .done () }
    | .reply r s => .moved s (next r)
    | .wait s => .waits s
    | .gone s => .gone s
  | .call (.execute argv) next =>
    match s.process? pid with
    | none => .gone s
    | some p =>
      match s.image p argv with
      | .error e => .moved s (next e)
      | .ok image => .became (s.beginProgram pid) (Utility.main image.program image.argv).never
  | .call (.executeFile path argv) next =>
    match s.process? pid with
    | none => .gone s
    | some p =>
      match s.load p.directory State.maxScripts path argv with
      | .error e => .moved s (next e)
      | .ok image => .became (s.beginProgram pid) (Utility.main image.program image.argv).never
  | .call .startReaper next =>
    match s.perform pid .startReaper with
    | .reply r s => .watched s (next r)
    | .wait s => .waits s
    | .gone s => .gone s
  | .call c next =>
    match s.perform pid c with
    | .reply r s => .moved s (next r)
    | .wait s => .waits s
    | .gone s => .gone s

/-- A machine at work: its state, the process of the shell, the reaper, and the other processes. -/
structure System where
  state : State
  shell : Nat
  reaper : Option (Prog Unit) := none
  threads : List Thread := []
  /-- How many steps the shell has made since the others had a turn. -/
  steps : Nat := 0

namespace System

/-- How many steps a turn has. -/
def turnLength : Nat := 64

/-- How long a turn of all processes takes. -/
def turnTime : Nat := 200000

/-- What is left of a program after a turn, the reaper beside it, and the processes that it has made. -/
structure Turn where
  state : State
  program : Option (Prog Unit)
  reaper : Option (Prog Unit) := none
  children : List Thread := []
  moved : Bool := false

/-- Gives a program up to `n` steps. -/
def turn (pid : Nat) : Nat → Turn → Turn
  | 0, t => t
  | n + 1, t =>
    match t.program, t.state.phase? pid with
    | some p, some .running =>
      match step t.state pid p with
      | .moved s p => turn pid n { t with state := s, program := some p, moved := true }
      | .forked s p child =>
        turn pid n { t with state := s, program := some p, children := t.children ++ [child], moved := true }
      | .watched s p => turn pid n { t with state := s, program := some p, reaper := some Reaper.run, moved := true }
      | .waits s => { t with state := s }
      | .gone s => { t with state := s, program := none, moved := true }
      | .became s p => turn pid n { t with state := s, program := some p, reaper := none, moved := true }
      | .finished _ => { t with state := t.state.finish pid (.exited 0), program := none, moved := true }
    | _, some (.ended _) => { t with program := none }
    | _, none => { t with program := none }
    | _, _ => t

/-- Gives a reaper up to `n` steps, behind the state in which it has ended if it does. -/
def reaperSteps (pid : Nat) : Nat → State → Prog Unit → Bool → Option (Prog Unit) × State × Bool
  | 0, s, p, moved => (some p, s, moved)
  | n + 1, s, p, moved =>
    match step s pid p with
    | .moved s p => reaperSteps pid n s p true
    | .waits s => (some p, s, moved)
    | _ => (none, s.updateNotices pid fun n => { n with watched := false }, true)

/-- A turn of the reaper of a process, if there is one. It stands still while the process is stopped. -/
def reaperTurn (pid : Nat) (reaper : Option (Prog Unit)) (s : State) : Option (Prog Unit) × State × Bool :=
  match reaper, s.phase? pid with
  | none, _ => (none, s, false)
  | reaper, some (.stopped _) => (reaper, s, false)
  | some p, _ => reaperSteps pid (turnLength + 1) s p false

/-- A turn for each of the processes in a list, and for its reaper before it. -/
def turns : List Thread → State → List Thread × State × Bool
  | [], s => ([], s, false)
  | thread :: rest, s =>
    let (reaper, s, reaped) := reaperTurn thread.pid thread.reaper s
    let t := turn thread.pid turnLength { state := s, program := some thread.program, reaper }
    let (threads, s, moved) := turns rest t.state
    let own := (t.program.map fun p => { thread with program := p, reaper := t.reaper }).toList
    (own ++ threads ++ t.children, s, reaped || t.moved || moved)

/-- The time at which the next process wakes up. -/
def nextAlarm (s : State) : Option Nat :=
  (s.processes.filterMap (·.alarm)).filter (s.clock < ·) |>.min?

/-- A turn of all but the shell. The answer says whether something has moved, be it the clock. -/
def round (m : System) (limit : Option Nat) : System × Bool :=
  let (reaper, s, reaped) := reaperTurn m.shell m.reaper m.state
  let m := { m with reaper, state := s }
  let (threads, s, moved) := turns m.threads m.state
  if reaped || moved then
    ({ m with threads, state := { s with clock := s.clock + turnTime } }, true)
  else
    match nextAlarm s, limit with
    | some time, some limit => ({ m with threads, state := { s with clock := min time limit } }, true)
    | some time, none => ({ m with threads, state := { s with clock := time } }, true)
    | none, some limit =>
      ({ m with threads, state := { s with clock := max s.clock limit } }, s.clock < limit)
    | none, none => ({ m with threads, state := s }, false)

/-- How many steps the shell makes without waiting until it is interrupted. -/
def sliceLength : Nat := 256

/-- How many turns the others have then. -/
def sliceTurns : Nat := 4

/-- A few turns of all but the shell. The clock does not move to the next time at which a process wakes up. -/
def interrupt : Nat → System → System
  | 0, m => { m with steps := 0 }
  | n + 1, m => interrupt n (m.round (some m.state.clock)).1

/-- The shell has made a step. -/
def stepped (m : System) : System :=
  if m.steps + 1 < sliceLength then { m with steps := m.steps + 1 } else interrupt sliceTurns m

/-- How many steps and turns a run may have. -/
def runLength : Nat := 10000000

/-- Runs a program in the process of the shell to its end. Without an answer the shell has ended before, or it
waits for what cannot happen. -/
def runWith {α : Type} : Nat → System → Prog α → Option α × System
  | 0, m, _ => (none, m)
  | fuel + 1, m, p =>
    match m.state.phase? m.shell with
    | some .running =>
      match step m.state m.shell p with
      | .finished a => (some a, m)
      | .moved s p => runWith fuel { m with state := s }.stepped p
      | .forked s p child => runWith fuel { m with state := s, threads := m.threads ++ [child] }.stepped p
      | .watched s p => runWith fuel { m with state := s, reaper := some Reaper.run }.stepped p
      | .gone s => (none, { m with state := s })
      | .became s _ => (none, { m with state := s })
      | .waits s =>
        let (m, moved) := round { m with state := s, steps := 0 } none
        if moved then runWith fuel m p else (none, m)
    | some (.stopped _) =>
      let (m, moved) := m.round none
      if moved then runWith fuel m p else (none, m)
    | _ => (none, m)

/-- Runs a program in the process of the shell to its end. -/
def run {α : Type} (m : System) (p : Prog α) : Option α × System :=
  runWith runLength m p

/-- Lets the other processes run until a condition holds, or until it is too late. -/
def awaitWith (holds : State → Bool) (limit : Nat) : Nat → System → Bool × System
  | 0, m => (false, m)
  | fuel + 1, m =>
    if holds m.state then (true, m)
    else if limit ≤ m.state.clock then (false, m)
    else
      let (m, moved) := m.round (some limit)
      if moved then awaitWith holds limit fuel m else (holds m.state, m)

/-- How long one waits for a condition. -/
def patience : Nat := 5000000000

/-- Lets the other processes run until a condition holds, for five seconds at most. -/
def await (m : System) (holds : State → Bool) : Bool × System :=
  awaitWith holds (m.state.clock + patience) runLength m

end System

end JobShell.Machine
