import JobShell.Machine.Keyboard
import JobShell.Machine.World
import JobShell.Session.Basic

/-! # Watching a shell

What can be done with a shell from outside: giving it lines, looking at its jobs, sending signals, typing at
its terminal, and waiting until something shows. Nothing is waited for longer than five seconds. -/

namespace JobShell.Machine.World

/-! ### Lines -/

/-- Evaluates a line, and answers what the shell has printed. -/
def eval (w : World) (line : Text) : Option (Except Failure Flow) × Text × World :=
  match w.runKept (w.shell.eval line) with
  | (some (result, shell), printed, w) => (some result, printed, { w with shell })
  | (none, printed, w) => (none, printed, w)

/-- Launches the pipeline of a line. -/
def launchLine (limits : Limits) (line : Text) : Prog (Except Failure Launched) :=
  match Pipeline.parse limits line with
  | .error f => return .error f
  | .ok p => launch p

/-- Which group a process is in, as seen from the processes it was spawned with. -/
inductive GroupKind
  | first
  | shell
  | other
deriving DecidableEq, Repr

/-- The groups of spawned processes. -/
def groupKinds (w : World) (pids : List Pid) : List GroupKind :=
  pids.map fun pid =>
    let group := (w.system.state.process? pid.toNat).map fun p => (p.group : Pid)
    if group = pids.head? then .first
    else if group = some (shellPid : Pid) then .shell
    else .other

/-- Spawns the stages of a line. -/
def spawnLine (limits : Limits) (line : Text) (grouped : Bool) : Prog (Except Failure (List Pid)) :=
  match Pipeline.parse limits line with
  | .error f => return .error f
  | .ok p =>
    match p.stages.mapM Invocation.ofStage with
    | .error f => return .error f
    | .ok stages => Launch.spawn grouped stages

/-- Sends a signal to each of several processes, if there is one to send, and waits for all of them. -/
def finishAll (pids : List Pid) (signal : Option Signal) : Prog (Except Failure (List (Option Status))) := do
  if let some signal := signal then
    pids.forM fun pid => do
      let _ ← Prog.perform (.kill pid signal.number)
  waitAll pids

/-- Spawns the stages of a line, looks at their groups, and waits for them. -/
def spawnAndFinish (w : World) (limits : Limits) (line : Text) (grouped : Bool) (signal : Option Signal) :
    Option (Except Failure (List GroupKind × List (Option Status))) × World :=
  match w.run (spawnLine limits line grouped) with
  | (none, w) => (none, w)
  | (some (.error f), w) => (some (.error f), w)
  | (some (.ok pids), w) =>
    let kinds := w.groupKinds pids
    match w.run (finishAll pids signal) with
    | (none, w) => (none, w)
    | (some (.error f), w) => (some (.error f), w)
    | (some (.ok statuses), w) => (some (.ok (kinds, statuses)), w)

/-! ### Descriptors -/

/-- Leaves the shell with exactly `n` descriptors that it can open. -/
def fillTable (w : World) (n : Nat) : World :=
  w.change fun s => s.update shellPid fun p =>
    let top := p.table.foldl (fun top e => max top (e.descriptor + 1)) 0
    let free := (List.range top).filter fun d => !p.table.any fun e => e.descriptor == d
    { p with table := p.table ++ free.map fun d => ⟨d, 0, true⟩, limit := top + n }

/-- Takes the table of the shell back to what it was before it was filled. -/
def unfillTable (w before : World) : World :=
  match before.system.state.process? shellPid with
  | none => w
  | some old =>
    let top := old.table.foldl (fun top e => max top (e.descriptor + 1)) 0
    w.change fun s => s.update shellPid fun p =>
      { p with
        table := p.table.filter fun e =>
          top ≤ e.descriptor || old.table.any fun o => o.descriptor == e.descriptor
        limit := old.limit }

/-- Evaluates a line with exactly `n` descriptors that can be opened. -/
def evalFilled (w : World) (n : Nat) (line : Text) : Option (Except Failure Flow) × Text × World :=
  let (result, printed, after) := (w.fillTable n).eval line
  (result, printed, after.unfillTable w)

/-! ### Jobs -/

/-- Puts a job into its place in a list by ids. -/
def insertById (job : Job) : List Job → List Job
  | [] => [job]
  | other :: rest => if job.id ≤ other.id then job :: other :: rest else other :: insertById job rest

/-- Reaps until enough jobs have finished, and once at least. -/
def reapWith (want limit : Nat) : Nat → List Job → World → Option (Except Failure (List Job)) × World
  | 0, _, w => (none, w)
  | fuel + 1, found, w =>
    match w.run Registry.reap with
    | (none, w) => (none, w)
    | (some (.error f), w) => (some (.error f), w)
    | (some (.ok more), w) =>
      let found := found ++ more
      if want ≤ found.length || limit ≤ w.system.state.clock then (some (.ok found), w)
      else
        let (system, moved) := w.system.round (some limit)
        if moved then reapWith want limit fuel found { w with system }
        else (some (.ok found), { w with system })

/-- Reaps until `want` jobs have finished. -/
def reap (w : World) (want : Nat) : Option (Except Failure (List Job)) × World :=
  let (result, w) := w.reapWith want (w.system.state.clock + System.patience) System.runLength []
  (result.map fun r => r.map fun jobs => jobs.foldr insertById [], w)

/-- Starts the reaper beside the shell. -/
def startReaper (w : World) : World :=
  (w.run (Prog.perform .startReaper)).2

/-- Stops the reaper. -/
def stopReaper (w : World) : World :=
  (w.run (Prog.perform .stopReaper)).2

/-- Waits until few enough jobs are left. -/
def drain (w : World) (left : Nat) : Bool × World :=
  w.await fun s => match (s.memory shellPid).jobs with
    | some jobs => jobs.jobs.length ≤ left
    | none => false

/-- The job with an id. -/
def job? (w : World) (id : Nat) : Option Job :=
  w.jobs.find? fun j => j.id == id

/-- Interrupts the shell from its keyboard, and waits until its standard error has grown. -/
def interrupt (w : World) : Bool × World :=
  let before := (w.held w.error).length
  let w := w.change fun s => s.post shellPid SignalNumber.interrupt
  w.await fun s => match s.tree.content? w.error with
    | some (.file bytes) => before < bytes.length
    | _ => false

/-- Sends a signal to the group of a job, once all its processes have become their programs. -/
def signalJob (w : World) (job : Job) (signal : Signal) : World :=
  let members := fun (s : State) => s.processes.filter fun p => (p.group : Pid) == job.group
  let (_, w) := w.await fun s => (members s).all fun p => p.executed || p.ended
  w.change fun s => s.postGroup job.group.toNat signal.number

/-- Whether the leader of a job is stopped. -/
def leaderStopped (job : Job) (s : State) : Bool :=
  match s.phase? job.pid.toNat with
  | some (.stopped _) => true
  | _ => false

/-- Stops the group of a job, and waits until its leader is stopped. -/
def stopJob (w : World) (job : Job) : Bool × World :=
  (w.change fun s => s.postGroup job.group.toNat Signal.stop.number).await (leaderStopped job)

/-- Waits until the leader of a job is stopped. -/
def awaitStopped (w : World) (job : Job) : Bool × World :=
  w.await (leaderStopped job)

/-- Waits until the leader of a job is not stopped. -/
def awaitRunning (w : World) (job : Job) : Bool × World :=
  w.await fun s => !leaderStopped job s

/-- Whether the leader of a job is in the group of the job. -/
def sameGroup (w : World) (job : Job) : Bool :=
  ((w.system.state.process? job.pid.toNat).map fun p => (p.group : Pid)) == some job.group

/-! ### The terminal -/

/-- Types at the terminal. -/
def typeText (w : World) (t : Text) : World :=
  w.change fun s => s.typeBytes t.encode

/-- Whether the shell is in the foreground of its terminal. -/
def ownsTerminal (w : World) : Bool :=
  match w.system.state.terminal, w.system.state.process? shellPid with
  | some t, some p => t.foreground == p.group
  | _, _ => false

/-! ### Sessions -/

/-- A session that is being watched. -/
structure Watched where
  world : World
  source : Source

/-- The end of an activity as it is seen from outside, where nothing is seen of a panic. -/
def shown? {α : Type} : Except Stop α → Option (Except Failure α)
  | .ok a => some (.ok a)
  | .error (.failure f) => some (.error f)
  | .error .panic => none

/-- Takes one line of a session. -/
def Watched.next (v : Watched) : Option (Except Failure (Option Flow)) × Watched :=
  match v.world.run (Session.next Source.next Shell.eval ⟨v.source, v.world.shell⟩) with
  | (some (result, s), w) => (shown? result, ⟨{ w with shell := s.shell }, s.reader⟩)
  | (none, world) => (none, { v with world })

/-- Takes all lines of a session. -/
def Watched.all (v : Watched) : Option (Except Failure (Option Int)) × Watched :=
  match v.world.run (Session.all Source.next Shell.eval ⟨v.source, v.world.shell⟩) with
  | (some (result, s), w) => (shown? result, ⟨{ w with shell := s.shell }, s.reader⟩)
  | (none, world) => (none, { v with world })

end JobShell.Machine.World
