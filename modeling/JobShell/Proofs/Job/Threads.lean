import JobShell.Shell
import Mathlib.Logic.Function.Basic
import Mathlib.Logic.Relation

/-! # The two threads of the shell

The interpreter evaluates one line after the other, and the reaper collects children that have ended. They share the
job table, which only one of them has at a time, and the children of the shell, which either of them may collect.
A call of one of them is one step, so that the steps of both and the ends of the children come in any order. -/

namespace JobShell.Threads

/-- What has become of the process with a pid. No pid is used twice. -/
inductive Fate
  | unborn
  | running
  | ended (status : Status)
  | collected

inductive Thread
  | interpreter
  | reaper
deriving DecidableEq

/-- What the threads share. -/
structure Shared where
  fates : Pid → Fate
  table : JobTable
  /-- The thread that has the table. -/
  holder : Option Thread

/-- The process is a child of the shell, or has been one. -/
def Shared.Born (s : Shared) (pid : Pid) : Prop := s.fates pid ≠ .unborn

def Shared.become (s : Shared) (pid : Pid) (fate : Fate) : Shared :=
  { s with fates := Function.update s.fates pid fate }

/-- The processes that a wait is about. -/
def Awaits (target pid : Pid) : Prop := target = -1 ∨ target = pid

/-- How a call of a thread can be replied to, and what it does to what is shared. A child that has ended is collected
by a wait for it, and then a wait finds it no more. The other calls may be replied to in any way. -/
def Answer (θ : Thread) : (c : Call) → Shared → c.Reply → Shared → Prop
  | .fork, s, .ok (.parent pid), s' => 0 < pid ∧ s.fates pid = .unborn ∧ s' = s.become pid .running
  | .fork, _, .ok .child, _ => False
  | .wait target _, s, .ok (.exited pid code), s' =>
    Awaits target pid ∧ s.fates pid = .ended (.exited code) ∧ s' = s.become pid .collected
  | .wait target _, s, .ok (.signaled pid n _), s' => Awaits target pid ∧
    ∃ x : Signal, x.number = n ∧ s.fates pid = .ended (.signaled x) ∧ s' = s.become pid .collected
  | .wait target block, s, .ok .alive, s' => block = false ∧ (∃ pid, Awaits target pid ∧ s.fates pid = .running) ∧
    (∀ pid, Awaits target pid → ∀ x, s.fates pid ≠ .ended x) ∧ s' = s
  | .wait _ _, _, .ok _, _ => False
  | .wait target _, s, .error e, s' => s' = s ∧ (e = .interrupted ∨
    e = .noChild ∧ ∀ pid, Awaits target pid → s.fates pid = .unborn ∨ s.fates pid = .collected)
  | .acquireJobs, s, table, s' => s.holder = none ∧ table = s.table ∧ s' = { s with holder := some θ }
  | .releaseJobs table, s, _, s' => s.holder = some θ ∧ s' = { s with table, holder := none }
  | _, s, _, s' => s' = s

/-- The evaluation of a line, and what it was told of children. -/
structure Evaluation where
  line : Text
  /-- The children that it forked. -/
  forked : List Pid
  /-- The children that it waited for when they had been collected already. -/
  lost : List Pid

def Evaluation.note (e : Evaluation) : (c : Call) → c.Reply → Evaluation
  | .fork, .ok (.parent pid) => { e with forked := e.forked ++ [pid] }
  | .wait pid _, .error .noChild => { e with lost := e.lost ++ [pid] }
  | _, _ => e

/-- The evaluation has forked all stages of a pipeline in the background, of which the last leads the job. -/
def Launched (limits : Limits) (e : Evaluation) (p : Pipeline) (leader : Pid) : Prop :=
  Pipeline.parse limits e.line = .ok p ∧ p.background = true ∧ p.command = .external p ∧
    e.forked.length = p.stages.length ∧ e.forked.getLast? = some leader

/-- The line asks for the job with an id to be continued in the foreground. -/
def Addresses (limits : Limits) (line : Text) (id : Nat) : Prop :=
  ∃ p argument, Pipeline.parse limits line = .ok p ∧ p.command = .builtin .fg [argument] ∧
    Builtin.readId? argument = some id

/-- Who takes a job out of the table. -/
inductive Remover
  | reaper
  | line (line : Text)
deriving DecidableEq

/-- The jobs that are no longer in the table when it is given back. -/
def missing (old : JobTable) : Call → List Job
  | .releaseJobs new => old.jobs.filter (· ∉ new.jobs)
  | _ => []

/-- The shell with its two threads, each with what is left of its program if it is at work, and a record of what they
have done. -/
structure System extends Shared where
  shell : Shell
  interpreter : Option (Evaluation × Prog (Except Failure Flow × Shell))
  reaper : Option (Prog (Except Failure (List Job)))
  /-- The evaluations that have ended, and how. -/
  finished : List (Evaluation × Except Failure Flow)
  /-- What the reaper has answered. -/
  reaped : List (Except Failure (List Job))
  /-- The jobs that were taken out of the table, in this order. -/
  removed : List (Job × Remover)

namespace System

/-- A shell without children and jobs. -/
def start (shell : Shell) : System where
  fates _ := .unborn
  table := .empty
  holder := none
  shell := shell
  interpreter := none
  reaper := none
  finished := []
  reaped := []
  removed := []

/-- A child ends, or one of the threads goes on. -/
inductive Step : System → System → Prop
  | ends {s : System} {pid : Pid} (status : Status) (hp : s.fates pid = .running) :
      Step s { s with toShared := s.become pid (.ended status) }
  | enter {s : System} (line : Text) (hi : s.interpreter = none) :
      Step s { s with interpreter := some (⟨line, [], []⟩, s.shell.eval line) }
  | evaluate {s : System} {e : Evaluation} {c : Call} {next : c.Reply → Prog (Except Failure Flow × Shell)}
      {r : c.Reply} {h : Shared} (hi : s.interpreter = some (e, .call c next))
      (ha : Answer .interpreter c s.toShared r h) :
      Step s { s with
        toShared := h
        interpreter := some (e.note c r, next r)
        removed := s.removed ++ (missing s.table c).map (·, .line e.line) }
  | repeatLine {s : System} {e : Evaluation} {σ β : Type} {body : σ → Prog (σ ⊕ β)} {t : σ}
      {next : β → Prog (Except Failure Flow × Shell)} (hi : s.interpreter = some (e, .loop body t next)) :
      Step s { s with interpreter := some (e, Prog.unroll body t next) }
  | finish {s : System} {e : Evaluation} {result : Except Failure Flow} {shell : Shell}
      (hi : s.interpreter = some (e, .done (result, shell))) :
      Step s { s with interpreter := none, shell, finished := s.finished ++ [(e, result)] }
  | notice {s : System} (hr : s.reaper = none) : Step s { s with reaper := some Registry.reap }
  | reap {s : System} {c : Call} {next : c.Reply → Prog (Except Failure (List Job))} {r : c.Reply} {h : Shared}
      (hr : s.reaper = some (.call c next)) (ha : Answer .reaper c s.toShared r h) :
      Step s { s with
        toShared := h
        reaper := some (next r)
        removed := s.removed ++ (missing s.table c).map (·, .reaper) }
  | repeatReap {s : System} {σ β : Type} {body : σ → Prog (σ ⊕ β)} {t : σ}
      {next : β → Prog (Except Failure (List Job))} (hr : s.reaper = some (.loop body t next)) :
      Step s { s with reaper := some (Prog.unroll body t next) }
  | report {s : System} {result : Except Failure (List Job)} (hr : s.reaper = some (.done result)) :
      Step s { s with reaper := none, reaped := s.reaped ++ [result] }

abbrev Reaches : System → System → Prop := Relation.ReflTransGen Step

end System

end JobShell.Threads
