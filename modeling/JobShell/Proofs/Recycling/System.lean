import JobShell.Proofs.Job.Threads
import JobShell.Reaper
import Mathlib.Data.Set.Insert

/-! # The two threads of the shell when pids are used again

As in `Threads`, the interpreter evaluates lines and the reaper collects children. Here the kernel may give a pid to a
new child once nobody has it: no process that was not collected, and no process group. A child is therefore known by
its place among all the children that were ever forked, and a pid stands for one child after the other.

The reaper is at work from the beginning. It learns of its children by a signal: the end of a child makes the signal
pending, however often that is so already, a pending signal is noted some time later, and the reaper takes the note back
before it collects children. -/

namespace JobShell.Recycling
open Threads (Thread Awaits Remover)

/-- What has become of a child. -/
inductive Phase
  | running
  | ended (x : Status)
  | collected (x : Status) (θ : Thread)

structure Child where
  pid : Pid
  group : Pid
  phase : Phase

/-- What the threads share, and what the kernel keeps for them. -/
structure Shared where
  /-- All children that were ever forked, in this order. -/
  children : List Child
  /-- The pids of all other processes, and their groups. -/
  others : Set Pid
  /-- The process group of the shell. -/
  home : Pid
  table : JobTable
  /-- The thread that has the table. -/
  holder : Option Thread
  /-- The signal of an ended child is pending. -/
  pending : Bool
  /-- The signal is noted, and the reaper has not taken the note back. -/
  noted : Bool

namespace Shared

def put (s : Shared) (i : Nat) (c : Child) : Shared := { s with children := s.children.set i c }

def bear (s : Shared) (c : Child) : Shared := { s with children := s.children ++ [c] }

/-- The kernel may give the pid to a new child. -/
def Free (s : Shared) (pid : Pid) : Prop :=
  0 < pid ∧ pid ≠ s.home ∧ pid ∉ s.others ∧
    ∀ c ∈ s.children, (∃ x θ, c.phase = .collected x θ) ∨ c.pid ≠ pid ∧ c.group ≠ pid

/-- The child is the last one that got the pid. -/
def Latest (s : Shared) (pid : Pid) (i : Nat) : Prop :=
  (s.children.map Child.pid)[i]? = some pid ∧ ∀ j, i < j → (s.children.map Child.pid)[j]? ≠ some pid

/-- A child that was not collected moves to a group. -/
def Moves (pid group : Pid) (s s' : Shared) : Prop :=
  ∃ i c, s.children[i]? = some c ∧ c.pid = pid ∧ (∀ x θ, c.phase ≠ .collected x θ) ∧ s' = s.put i { c with group }

end Shared

/-- The kernel tells of the end of a process. -/
def Tells (pid : Pid) (x : Status) : Report → Prop
  | .exited p code => p = pid ∧ x = .exited code
  | .signaled p n _ => p = pid ∧ ∃ signal : Signal, x = .signaled signal ∧ signal.number = n
  | _ => False

/-- How a wait of a thread can end. -/
inductive Waited (θ : Thread) (target : Pid) (block : Bool) (s : Shared) : Except Errno Report → Shared → Prop
  | collects {i : Nat} {c : Child} {x : Status} {report : Report} (hc : s.children[i]? = some c)
      (hx : c.phase = .ended x) (ht : Awaits target c.pid) (hr : Tells c.pid x report) :
      Waited θ target block s (.ok report) (s.put i { c with phase := .collected x θ })
  | alive (hb : block = false) (hr : ∃ c ∈ s.children, Awaits target c.pid ∧ c.phase = .running)
      (hn : ∀ c ∈ s.children, Awaits target c.pid → ∀ x, c.phase ≠ .ended x) : Waited θ target block s (.ok .alive) s
  | noChild (h : ∀ c ∈ s.children, Awaits target c.pid → ∃ x θ', c.phase = .collected x θ') :
      Waited θ target block s (.error .noChild) s
  | interrupted : Waited θ target block s (.error .interrupted) s

/-- How a call of a thread can be replied to, and what it does to what is shared. -/
def Answer (θ : Thread) : (c : Call) → Shared → c.Reply → Shared → Prop
  | .fork, s, .ok (.parent pid), s' => s.Free pid ∧ s' = s.bear ⟨pid, s.home, .running⟩
  | .fork, _, .ok .child, _ => False
  | .setGroup pid group, s, .ok _, s' => s.Moves pid (if group = 0 then pid else group) s'
  | .wait target block, s, r, s' => Waited θ target block s r s'
  | .acquireJobs, s, table, s' => s.holder = none ∧ table = s.table ∧ s' = { s with holder := some θ }
  | .releaseJobs table, s, _, s' => s.holder = some θ ∧ s' = { s with table, holder := none }
  | .awaitNotice, s, .childChanged, s' => s.noted = true ∧ s' = { s with noted := false }
  | .awaitNotice, s, .interrupt, s' => s' = s
  | .awaitNotice, _, .closed, _ => False
  | _, s, _, s' => s' = s

/-! ### The record of a run -/

/-- Which jobs came into the table, each with the child that leads it, and which were taken out of it, and by whom. -/
structure Ledger where
  launched : Set (Job × Nat)
  removed : Set (Job × Remover)

/-- The table is given back. Whoever has the pid of a new job then leads the job. -/
def Ledger.note (l : Ledger) (s : Shared) (who : Remover) : Call → Ledger
  | .releaseJobs t => {
      launched := l.launched ∪ {x | x.1 ∈ t.jobs ∧ x.1 ∉ s.table.jobs ∧ s.Latest x.1.pid x.2}
      removed := l.removed ∪ {x | x.1 ∈ s.table.jobs ∧ x.1 ∉ t.jobs ∧ x.2 = who} }
  | _ => l

/-- The evaluation of a line. -/
structure Evaluation where
  line : Text
  /-- How many children were forked before. -/
  first : Nat

/-- An evaluation that has ended. -/
structure Finished extends Evaluation where
  /-- How many children were forked until then. -/
  next : Nat
  result : Except Failure Flow
  status : Int

/-- The shell with its two threads, each with what is left of its program. -/
structure System extends Shared where
  shell : Shell
  interpreter : Option (Evaluation × Prog (Except Failure Flow × Shell))
  reaper : Prog Unit
  finished : List Finished
  ledger : Ledger

namespace System

/-- A shell without children and jobs; its reaper is there. -/
def start (shell : Shell) (home : Pid) (others : Set Pid) : System where
  children := []
  others := others
  home := home
  table := .empty
  holder := none
  pending := false
  noted := false
  shell := shell
  interpreter := none
  reaper := Reaper.run
  finished := []
  ledger := ⟨∅, ∅⟩

/-- Something happens outside, or one of the threads goes on. -/
inductive Step : System → System → Prop
  | ends {s : System} {i : Nat} {c : Child} (x : Status) (hc : s.children[i]? = some c) (hp : c.phase = .running) :
      Step s { s with toShared := { s.toShared.put i { c with phase := .ended x } with pending := true } }
  /-- A child stops or goes on, or somebody sends the signal. -/
  | stirs {s : System} : Step s { s with pending := true }
  | delivers {s : System} (hp : s.pending = true) : Step s { s with pending := false, noted := true }
  | moves {s : System} {h : Shared} (pid group : Pid) (hm : s.toShared.Moves pid group h) :
      Step s { s with toShared := h }
  | elsewhere {s : System} (others : Set Pid) : Step s { s with others := others }
  | enter {s : System} (line : Text) (hi : s.interpreter = none) :
      Step s { s with interpreter := some (⟨line, s.children.length⟩, s.shell.eval line) }
  | evaluate {s : System} {e : Evaluation} {c : Call} {next : c.Reply → Prog (Except Failure Flow × Shell)}
      {r : c.Reply} {h : Shared} (hi : s.interpreter = some (e, .call c next))
      (ha : Answer .interpreter c s.toShared r h) :
      Step s { s with
        toShared := h
        interpreter := some (e, next r)
        ledger := s.ledger.note s.toShared (.line e.line) c }
  | repeatLine {s : System} {e : Evaluation} {σ β : Type} {body : σ → Prog (σ ⊕ β)} {t : σ}
      {next : β → Prog (Except Failure Flow × Shell)} (hi : s.interpreter = some (e, .loop body t next)) :
      Step s { s with interpreter := some (e, Prog.unroll body t next) }
  | finish {s : System} {e : Evaluation} {result : Except Failure Flow} {shell : Shell}
      (hi : s.interpreter = some (e, .done (result, shell))) :
      Step s { s with
        interpreter := none
        shell := shell
        finished := s.finished ++ [⟨e, s.children.length, result, shell.status⟩] }
  | reap {s : System} {c : Call} {next : c.Reply → Prog Unit} {r : c.Reply} {h : Shared}
      (hr : s.reaper = .call c next) (ha : Answer .reaper c s.toShared r h) :
      Step s { s with
        toShared := h
        reaper := next r
        ledger := s.ledger.note s.toShared .reaper c }
  | repeatReap {s : System} {σ β : Type} {body : σ → Prog (σ ⊕ β)} {t : σ} {next : β → Prog Unit}
      (hr : s.reaper = .loop body t next) : Step s { s with reaper := Prog.unroll body t next }

abbrev Reaches : System → System → Prop := Relation.ReflTransGen Step

end System

end JobShell.Recycling
