import JobShell.Launch.Basic
import JobShell.Proofs.Job.Children
import JobShell.Proofs.Job.Threads

/-! # A launch in the background and its process groups

The shell forks the children of a launch and puts each of them into a group, each child does so for itself, children
execute their programs and end, and the reaper collects them beside the shell. A call is one step, and the steps of all
of them come in any order. -/

namespace JobShell.Groups
open Children (Ending)
open Threads (Awaits Thread)

/-- What a child is doing. -/
inductive Activity : Type 1
  | running (p : Prog (Except Failure Launched))
  /-- The child has become its program. -/
  | executing
  /-- The child has ended and was not collected. -/
  | ended (e : Ending)
  | collected

/-- A child of the launch, with the group in which it has executed its program, if it has. -/
structure Process : Type 1 where
  pid : Pid
  group : Pid
  executed : Option Pid
  activity : Activity

structure System : Type 1 where
  /-- The group of the shell. -/
  home : Pid
  /-- The children of the launch in the order in which they were forked. -/
  children : List Process
  /-- The groups of the other processes of the session. -/
  others : Set Pid
  table : JobTable
  /-- The thread that has the table. -/
  holder : Option Thread
  shell : Prog (Except Failure Launched)
  /-- What is left for the reaper to do, if it is at work. -/
  reaper : Option (Prog (Except Failure (List Job)))

namespace System

/-- The shell is about to launch a pipeline. -/
def start (home : Pid) (others : Set Pid) (table : JobTable) (p : Pipeline) : System :=
  ⟨home, [], others, table, none, launch p, none⟩

def put (s : System) (i : Nat) (c : Process) : System := { s with children := s.children.set i c }

/-- Some process that was not collected belongs to the group. -/
def HasGroup (s : System) (g : Pid) : Prop :=
  g ∈ s.others ∨ ∃ c ∈ s.children, c.activity ≠ .collected ∧ c.group = g

/-- Whether a child can be put into a group. It cannot when it has executed its program, and the group has to be there
unless the child is to lead it. -/
def CanJoin (s : System) (c : Process) (g : Pid) : Prop :=
  c.activity ≠ .collected ∧ c.executed = none ∧ (g = c.pid ∨ s.HasGroup g)

/-- The shell puts a child into a group, or is refused to and changes nothing. -/
inductive SetsGroup (s : System) (pid g : Pid) : Except Errno Unit → System → Prop
  | joins {i : Nat} {c : Process} (hc : s.children[i]? = some c) (hp : c.pid = pid) (hj : s.CanJoin c g) :
      SetsGroup s pid g (.ok ()) (s.put i { c with group := g })
  | refused (e : Errno) (h : ∀ c ∈ s.children, c.pid = pid → ¬ s.CanJoin c g) : SetsGroup s pid g (.error e) s

/-- A wait collects a child that has ended, which may also be one of another launch. -/
inductive Waits (s : System) (target : Pid) (block : Bool) : Except Errno Report → System → Prop
  | collects {i : Nat} {c : Process} {e : Ending} {report : Report} (hc : s.children[i]? = some c)
      (ht : Awaits target c.pid) (he : c.activity = .ended e) (hr : e.Reported c.pid report) :
      Waits s target block (.ok report) (s.put i { c with activity := .collected })
  | other {pid : Pid} {e : Ending} {report : Report} (hp : ∀ c ∈ s.children, c.pid ≠ pid) (ht : Awaits target pid)
      (hr : e.Reported pid report) : Waits s target block (.ok report) s
  | alive (hb : block = false) (h : ∀ c ∈ s.children, Awaits target c.pid → ∀ e, c.activity ≠ .ended e) :
      Waits s target block (.ok .alive) s
  | noChild (h : ∀ c ∈ s.children, Awaits target c.pid → c.activity = .collected) :
      Waits s target block (.error .noChild) s
  | interrupted : Waits s target block (.error .interrupted) s

/-- How a call of a thread of the shell can be replied to, and what it does. A fork that succeeds is no such call, as it
returns twice. -/
def Answer (θ : Thread) : (c : Call) → System → c.Reply → System → Prop
  | .setGroup pid g, s, r, s' => SetsGroup s pid g r s'
  | .wait target block, s, r, s' => Waits s target block r s'
  | .acquireJobs, s, table, s' => s.holder = none ∧ table = s.table ∧ s' = { s with holder := some θ }
  | .releaseJobs table, s, _, s' => s.holder = some θ ∧ s' = { s with table, holder := none }
  | .fork, _, .ok _, _ => False
  | _, s, _, s' => s' = s

/-- The calls of a child that have nothing to do with groups and do not end its program. -/
def Plain : Call → Prop
  | .fork | .setGroup _ _ | .wait _ _ | .acquireJobs | .releaseJobs _ | .exit _ => False
  | _ => True

/-- One step of the shell, of a child or of the reaper. -/
inductive Step : System → System → Prop
  | fork {s : System} {next : Except Errno Forked → Prog (Except Failure Launched)} (pid : Pid)
      (hs : s.shell = .call .fork next) (hpos : 0 < pid) (hnew : ∀ c ∈ s.children, c.pid ≠ pid) :
      Step s { s with
        children := s.children ++ [⟨pid, s.home, none, .running (next (.ok .child))⟩]
        shell := next (.ok (.parent pid)) }
  | launch {s s' : System} {c : Call} {next : c.Reply → Prog (Except Failure Launched)} {r : c.Reply}
      (hs : s.shell = .call c next) (ha : Answer .interpreter c s r s') : Step s { s' with shell := next r }
  | repeatLaunch {s : System} {σ β : Type} {body : σ → Prog (σ ⊕ β)} {t : σ} {next : β → Prog (Except Failure Launched)}
      (hs : s.shell = .loop body t next) : Step s { s with shell := Prog.unroll body t next }
  /-- A child puts itself into a group; 0 stands for the group that it leads. -/
  | join {s : System} {i : Nat} {c : Process} {g : Pid} {next : Except Errno Unit → Prog (Except Failure Launched)}
      (hc : s.children[i]? = some c) (ha : c.activity = .running (.call (.setGroup 0 g) next))
      (hj : s.CanJoin c (if g = 0 then c.pid else g)) : Step s
        (s.put i { c with group := if g = 0 then c.pid else g, activity := .running (next (.ok ())) })
  | stay {s : System} {i : Nat} {c : Process} {g : Pid} {next : Except Errno Unit → Prog (Except Failure Launched)}
      (e : Errno) (hc : s.children[i]? = some c) (ha : c.activity = .running (.call (.setGroup 0 g) next))
      (hj : ¬ s.CanJoin c (if g = 0 then c.pid else g)) : Step s
        (s.put i { c with activity := .running (next (.error e)) })
  | execute {s : System} {i : Nat} {c : Process} {argv : List Bytes} {next : Errno → Prog (Except Failure Launched)}
      (hc : s.children[i]? = some c) (ha : c.activity = .running (.call (.execute argv) next)) :
      Step s (s.put i { c with executed := some c.group, activity := .executing })
  | exit {s : System} {i : Nat} {c : Process} {code : Int} {next : Empty → Prog (Except Failure Launched)}
      (hc : s.children[i]? = some c) (ha : c.activity = .running (.call (.exit code) next)) :
      Step s (s.put i { c with activity := .ended (.exited code) })
  | act {s : System} {i : Nat} {c : Process} {x : Call} {next : x.Reply → Prog (Except Failure Launched)} {r : x.Reply}
      (hc : s.children[i]? = some c) (ha : c.activity = .running (.call x next)) (hx : Plain x) :
      Step s (s.put i { c with activity := .running (next r) })
  | repeatAct {s : System} {i : Nat} {c : Process} {σ β : Type} {body : σ → Prog (σ ⊕ β)} {t : σ}
      {next : β → Prog (Except Failure Launched)} (hc : s.children[i]? = some c)
      (ha : c.activity = .running (.loop body t next)) :
      Step s (s.put i { c with activity := .running (Prog.unroll body t next) })
  /-- The program of a child ends. -/
  | finish {s : System} {i : Nat} {c : Process} (e : Ending) (hc : s.children[i]? = some c)
      (ha : c.activity = .executing) : Step s (s.put i { c with activity := .ended e })
  | kill {s : System} {i : Nat} {c : Process} {p : Prog (Except Failure Launched)} (signal : Children.SignalNumber)
      (hc : s.children[i]? = some c) (ha : c.activity = .running p) :
      Step s (s.put i { c with activity := .ended (.signaled signal) })
  | notice {s : System} (hr : s.reaper = none) : Step s { s with reaper := some Registry.reap }
  | reap {s s' : System} {c : Call} {next : c.Reply → Prog (Except Failure (List Job))} {r : c.Reply}
      (hr : s.reaper = some (.call c next)) (ha : Answer .reaper c s r s') : Step s { s' with reaper := some (next r) }
  | repeatReap {s : System} {σ β : Type} {body : σ → Prog (σ ⊕ β)} {t : σ}
      {next : β → Prog (Except Failure (List Job))} (hr : s.reaper = some (.loop body t next)) :
      Step s { s with reaper := some (Prog.unroll body t next) }
  | report {s : System} {result : Except Failure (List Job)} (hr : s.reaper = some (.done result)) :
      Step s { s with reaper := none }
  /-- Other processes of the session come, go, and change their groups. -/
  | elsewhere {s : System} (others : Set Pid) : Step s { s with others }

abbrev Reaches : System → System → Prop := Relation.ReflTransGen Step

end System

end JobShell.Groups
