import JobShell.Proofs.Descriptor.System
import JobShell.Proofs.Job.Children
import JobShell.Proofs.Prog.Note

/-! # The estate of the interpreter

All that a line can change for the interpreter: its descriptors, its directory, its output, the job table, and its
children. Children end by themselves and in any way, and the kernel may refuse whatever it can refuse. There may be a
reaper, which collects children and takes jobs out of the table at any time. A wait can be disturbed, by a signal to the
interpreter or by a child that stops or goes on, but not for ever.

Notes are kept of the calls that make processes, send signals to them and collect them. -/

namespace JobShell.Estate
open Children (Ending Phase)

/-- What nobody but the interpreter changes. -/
structure Own where
  descriptors : Descriptors.Table
  /-- The interpreter has the job table. -/
  held : Bool
  directory : Nat
  output : Text
  environment : List (Bytes × Bytes)

structure State extends Own where
  children : Pid → Option Phase
  table : JobTable
  /-- How many more times a wait will be disturbed. -/
  disturbances : Nat

namespace State

/-- Something happens to one child. -/
def set (s : State) (pid : Pid) (phase : Option Phase) : State :=
  { s with children := Function.update s.children pid phase }

@[simp] theorem set_children (s : State) (pid q : Pid) (phase : Option Phase) :
    (s.set pid phase).children q = if q = pid then phase else s.children q :=
  Function.update_apply ..

/-- One disturbance less. -/
def Calms (s s' : State) : Prop := ∃ n, s.disturbances = n + 1 ∧ s' = { s with disturbances := n }

end State

/-- What a disturbed wait reports: a child has stopped or goes on. Only signals with a name stop a process. -/
def Stirring : Report → Prop
  | .stopped _ n => Signal.ofNumber? n ≠ none
  | .continued _ => True
  | _ => False

/-- How the wait for a child, or for one of several, can end. -/
def Waited (target : Pid) (s : State) : Except Errno Report → State → Prop
  | .ok report, s' =>
    (∃ pid e, (0 < target → pid = target) ∧ s.children pid = some (.ended e) ∧ e.Reported pid report ∧
      s' = s.set pid none) ∨
    Stirring report ∧ s.Calms s'
  | .error e, s' =>
    e = .interrupted ∧ s.Calms s' ∨ e = .noChild ∧ (0 < target → s.children target = none) ∧ s' = s

/-- The calls that leave the estate as it is. -/
def Quiet : Call → Prop
  | .write _ _ | .isTerminal _ | .setForeground _ _ | .ownGroup | .setGroup _ _ | .blockSignal _ _ | .kill _ _
  | .killGroup _ _ => True
  | _ => False

/-- How a call can be replied to, and what it does. A descriptor is free behind a close, whatever the reply. What the
output has kept back may come at a flush. Of the calls that the interpreter makes for no line, nothing is known. -/
def Answer : (c : Call) → State → c.Reply → State → Prop
  | .pipe, s, .ok (reader, writer), s' =>
    reader ≠ writer ∧ s.descriptors reader = none ∧ s.descriptors writer = none ∧ ∃ n,
      s' = { s with descriptors := (s.descriptors.set reader ⟨.reader n, true⟩).set writer ⟨.writer n, true⟩ }
  | .pipe, s, .error _, s' => s' = s
  | .close d, s, _, s' => s' = { s with descriptors := s.descriptors.clear d }
  | .fork, s, .ok (.parent pid), s' => 0 < pid ∧ s.children pid = none ∧ s' = s.set pid (some .running)
  | .fork, _, .ok .child, _ => False
  | .fork, s, .error _, s' => s' = s
  | .wait target true, s, r, s' => Waited target s r s'
  | .acquireJobs, s, table, s' => s.held = false ∧ table = s.table ∧ s' = { s with held := true }
  | .releaseJobs table, s, _, s' => s.held = true ∧ s' = { s with table, held := false }
  | .print text, s, .ok _, s' => s' = { s with output := s.output ++ text }
  | .print text, s, .error _, s' => ∃ part, part <+: text ∧ s' = { s with output := s.output ++ part }
  | .flush, s, _, s' => ∃ part, s' = { s with output := s.output ++ part }
  | .changeDirectory _, s, .ok _, s' => ∃ directory, s' = { s with directory }
  | .changeDirectory _, s, .error _, s' => s' = s
  | .environment, s, r, s' => r = s.environment ∧ s' = s
  | c, s, _, s' => Quiet c → s' = s

/-- What happens without the interpreter. -/
inductive Drift (reaper : Prop) : State → State → Prop
  | ends {s : State} {pid : Pid} (e : Ending) (hp : s.children pid = some .running) :
      Drift reaper s (s.set pid (some (.ended e)))
  | calms {s s' : State} (h : s.Calms s') : Drift reaper s s'
  | reaps {s : State} {pid : Pid} {e : Ending} (hr : reaper) (hp : s.children pid = some (.ended e)) :
      Drift reaper s (s.set pid none)
  | removes {s : State} (pid : Pid) (hr : reaper) (hh : s.held = false) :
      Drift reaper s { s with table := (s.table.remove pid).2 }

inductive Noted
  | pipe
  | forked (pid : Pid)
  /-- A pipe or a process could not be made. -/
  | refused (f : Failure)
  | killed (pid : Pid) (signal : Nat)
  | killedGroup (group : Pid) (signal : Nat)
  | collected (pid : Pid) (e : Ending)
  /-- The output was refused. -/
  | muted
  /-- What the output has kept back could not be written out. -/
  | unflushed
  /-- A failure could not be reported. -/
  | unreported

def note : (c : Call) → c.Reply → Option Noted
  | .pipe, .ok _ => some .pipe
  | .pipe, .error e => some (.refused (.pipe e))
  | .fork, .ok (.parent pid) => some (.forked pid)
  | .fork, .error e => some (.refused (.fork e))
  | .kill pid n, _ => some (.killed pid n)
  | .killGroup group n, _ => some (.killedGroup group n)
  | .wait _ _, .ok (.exited pid code) => some (.collected pid (.exited code))
  | .wait _ _, .ok (.signaled pid n _) => if h : 1 ≤ n ∧ n ≤ 64 then some (.collected pid (.signaled ⟨n, h⟩)) else none
  | .print _, .error _ => some .muted
  | .flush, .error _ => some .unflushed
  | .write d _, .error e => if d = 2 ∧ e ≠ .badDescriptor then some .unreported else none
  | _, _ => none

/-- The interpreter with or without a reaper beside it. -/
def world (reaper : Prop) : Surroundings State := ⟨Answer, Drift reaper⟩

/-- The same, with notes. -/
def noted (reaper : Prop) : Surroundings (State × List Noted) := (world reaper).noting note

abbrev contract (reaper : Prop) : Contract (State × List Noted) := (noted reaper).live

theorem step_call {reaper : Prop} {α : Type} {k : State × List Noted} {s' : State} (c : Call)
    {next : c.Reply → Prog α} (r : c.Reply) (h : Answer c k.1 r s') :
    Prog.Step (noted reaper) (k, .call c next) ((s', k.2 ++ (note c r).toList), next r) :=
  .call ⟨h, rfl⟩

theorem step_drift {reaper : Prop} {α : Type} {k : State × List Noted} {s' : State} {p : Prog α}
    (h : Drift reaper k.1 s') : Prog.Step (noted reaper) (k, p) ((s', k.2), p) :=
  .drift ⟨h, rfl⟩

end JobShell.Estate
