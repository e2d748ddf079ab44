import JobShell.Machine.State

/-! # Signals on a machine

A signal that is sent to a process takes effect at once, unless the process ignores it, keeps it blocked or is
stopped. A process that ends or stops is reported to its parent by a signal. -/

namespace JobShell.Machine

namespace SignalNumber

def hangup : Nat := 1
def interrupt : Nat := 2
def quit : Nat := 3
def kill : Nat := 9
def pipe : Nat := 13
def child : Nat := 17
def resume : Nat := 18
def stop : Nat := 19
def terminalStop : Nat := 20
def terminalInput : Nat := 21
def terminalOutput : Nat := 22

/-- The signals that stop a process from its terminal. -/
def stopsFromTerminal (n : Nat) : Bool := n == terminalStop || n == terminalInput || n == terminalOutput

/-- The signals that stop a process. -/
def stops (n : Nat) : Bool := n == stop || stopsFromTerminal n

/-- The signals that have no effect by default. -/
def harmless (n : Nat) : Bool := n == 17 || n == 18 || n == 23 || n == 28

end SignalNumber

open SignalNumber

namespace State

/-- Tells the reaper of a shell of a signal that the shell catches. -/
def notice (s : State) (pid signal : Nat) : State :=
  s.updateMemory pid fun m =>
    if signal = child then { m with notices := { m.notices with childChanged := true } }
    else if signal = interrupt then { m with notices := { m.notices with interrupt := true } }
    else m

/-- Tells the parent of a process that the process has changed. -/
def reportTo (s : State) (parent : Nat) : State :=
  match s.process? parent with
  | some p => if p.caught.contains child then s.notice parent child else s
  | none => s

/-- What a signal does to a process that neither blocks nor ignores it, if the process does not end of it. -/
def deliverMild (s : State) (p : Process) (signal : Nat) : State :=
  if p.caught.contains signal then s.notice p.pid signal
  else if p.noting.contains signal then s.update p.pid fun p => { p with noted := p.noted ++ [signal] }
  else if stops signal && !(stopsFromTerminal signal && s.isOrphaned p.group) then
    (s.update p.pid fun p => { p with phase := .stopped signal }).reportTo p.parent
  else s

/-- Whether a process ends of a signal that it neither blocks nor ignores. -/
def isFatal (p : Process) (signal : Nat) : Bool :=
  !(p.caught.contains signal || p.noting.contains signal || harmless signal || stops signal)

/-- Takes a process that has ended out of the machine as far as it can be: its files are closed, and its
children belong to the machine. A process that belongs to the machine is gone when it ends. -/
def bury (s : State) (pid : Nat) (ending : Ending) : State :=
  match s.process? pid with
  | none => s
  | some p =>
    let s := s.update pid fun p =>
      { p with phase := .ended ending, table := [], opening := none, alarm := none }
    let orphaned := s.processes.map fun (q : Process) => if q.parent = pid then { q with parent := 1 } else q
    let kept := orphaned.filter fun q => !(q.parent == 1 && q.ended)
    let s := { s with processes := kept }
    s.reportTo p.parent

/-- The processes of the groups with stopped processes that are orphaned now and were not before. -/
def abandoned (before after : State) : List Process :=
  after.processes.filter fun p =>
    !p.ended && after.isOrphaned p.group && !before.isOrphaned p.group &&
      after.processes.any fun q => q.group == p.group && q.isStopped

/-- Ends a process. A group with stopped processes that nobody could make go on any more is told to hang up
and to go on. -/
def finish (s : State) (pid : Nat) (ending : Ending) : State :=
  let after := s.bury pid ending
  (abandoned s after).foldl (fun s p =>
    if p.ignored.contains hangup || !isFatal p hangup then
      (s.update p.pid fun p => { p with phase := .running }).deliverMild p hangup
    else s.bury p.pid (.signaled hangup)) after

/-- What a signal does to a process that neither blocks nor ignores it. -/
def deliver (s : State) (p : Process) (signal : Nat) : State :=
  if isFatal p signal then s.finish p.pid (.signaled signal) else s.deliverMild p signal

/-- Delivers the signals that a process has waiting and does not block. -/
def deliverPending (s : State) (pid : Nat) : State :=
  match s.process? pid with
  | none => s
  | some p =>
    let ready := p.pending.filter fun n => !p.blocked.contains n
    let s := s.update pid fun p => { p with pending := p.pending.filter p.blocked.contains }
    ready.foldl (fun s n =>
      match s.process? pid with
      | some p => if p.phase = .running then s.deliver p n else s
      | none => s) s

/-- Continues a process that is stopped. -/
def resumeProcess (s : State) (p : Process) : State :=
  match p.phase with
  | .stopped _ =>
    let s := s.update p.pid fun p =>
      { p with phase := .running, pending := p.pending.filter fun n => !stops n }
    (s.reportTo p.parent).deliverPending p.pid
  | _ => s.update p.pid fun p => { p with pending := p.pending.filter fun n => !stops n }

/-- Sends a signal to a process. -/
def post (s : State) (pid signal : Nat) : State :=
  match s.process? pid with
  | none => s
  | some p =>
    if p.ended || signal = 0 then s
    else if signal = kill then s.finish pid (.signaled signal)
    else if signal = stop then s.deliver p signal
    else
      let s := if signal = resume then s.resumeProcess p else s
      let unwatched := harmless signal && !p.caught.contains signal && !p.noting.contains signal
      if p.ignored.contains signal || unwatched then s
      else if p.blocked.contains signal || p.phase != .running then
        s.update pid fun p => { p with pending := p.pending ++ [signal] }
      else s.deliver p signal

/-- Sends a signal to all processes of a group. -/
def postGroup (s : State) (group signal : Nat) : State :=
  ((s.processes.filter fun p => p.group == group).map (·.pid)).foldl (fun s pid => s.post pid signal) s

end State

end JobShell.Machine
