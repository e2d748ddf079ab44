import JobShell.Kernel.Prog
import Mathlib.Logic.Function.Basic
import Mathlib.Logic.Relation

/-! # Processes and their descriptors

The kernel as tables of descriptors, one for each process. A process runs a program of calls; a fork makes another
process with a copy of the table, and what a call does to the table of one process it does to no other. So a step of
the system is a step of one of its processes, and the steps come in any order. -/

namespace JobShell.Descriptors

/-- What a descriptor stands for: an end of a pipe, or anything else. Pipes are numbered as they are made. -/
inductive File
  | reader (pipe : Nat)
  | writer (pipe : Nat)
  | other (id : Nat)
deriving DecidableEq, Repr

/-- The file is no end of a pipe from the `n`-th on. -/
def File.Before (n : Nat) : File → Prop
  | reader pipe => pipe < n
  | writer pipe => pipe < n
  | other _ => True

structure Entry where
  file : File
  closedByExecute : Bool
deriving DecidableEq, Repr

abbrev Table := Descriptor → Option Entry

namespace Table

def set (t : Table) (d : Descriptor) (e : Entry) : Table := Function.update t d (some e)

def clear (t : Table) (d : Descriptor) : Table := Function.update t d none

/-- What is left when the process becomes another program. -/
def executed (t : Table) : Table := fun d => (t d).filter fun e => !e.closedByExecute

def none : Table := fun _ => .none

end Table

/-- The descriptors of a process, and how many pipes there have been. -/
structure Holding where
  table : Table
  pipes : Nat

/-- Which files a path can lead to when it is opened. -/
abbrev Names := Bytes → Access → File → Prop

/-- How a call can be replied to, and what it does to the descriptors of the caller. A pipe and a file are opened
under any descriptors that are free. A fork that succeeds is no such call, as it returns twice. Services may do
anything, and the other calls leave the descriptors alone. -/
def Answer (names : Names) : (c : Call) → Holding → c.Reply → Holding → Prop
  | .pipe, h, .ok (reader, writer), h' => reader ≠ writer ∧ h.table reader = none ∧ h.table writer = none ∧
      h' = ⟨(h.table.set reader ⟨.reader h.pipes, true⟩).set writer ⟨.writer h.pipes, true⟩, h.pipes + 1⟩
  | .openFile path access, h, .ok d, h' => h.table d = none ∧
      ∃ f, names path access f ∧ h' = { h with table := h.table.set d ⟨f, false⟩ }
  | .close d, h, .ok _, h' => (∃ e, h.table d = some e) ∧ h' = { h with table := h.table.clear d }
  | .duplicate source target, h, .ok _, h' => ∃ e, h.table source = some e ∧
      h' = if source = target then h else { h with table := h.table.set target ⟨e.file, false⟩ }
  | .fork, _, .ok _, _ => False
  | .service _, _, _, _ => True
  | _, h, _, h' => h' = h

/-- The calls that pipes, processes and descriptors are made with are not refused. -/
def Succeeds : (c : Call) → c.Reply → Prop
  | .pipe, .error _ | .fork, .error _ | .openFile _ _, .error _ | .close _, .error _ | .duplicate _ _, .error _ =>
    False
  | _, _ => True

/-- The arguments of a call by which a process becomes another program. -/
def argv? : Call → Option (List Bytes)
  | .execute argv | .executeFile _ argv => some argv
  | _ => none

/-- What a process is doing. -/
inductive Activity (α : Type) : Type 1
  | running (p : Prog α)
  /-- The process has become another program. -/
  | executing (argv : List Bytes)
  | gone

/-- A process; of one that has become another program, the descriptors that this program has begun with. -/
structure Process (α : Type) : Type 1 where
  table : Table
  activity : Activity α

/-- The processes in the order in which they were forked, the shell in front, and the number of pipes. -/
structure System (α : Type) : Type 1 where
  processes : List (Process α)
  pipes : Nat

namespace System
variable {α : Type}

/-- The shell alone, with a program to run. -/
def start (table : Table) (pipes : Nat) (p : Prog α) : System α := ⟨[⟨table, .running p⟩], pipes⟩

def put (s : System α) (q : Nat) (p : Process α) : System α := { s with processes := s.processes.set q p }

theorem put_put (s : System α) (q : Nat) (p p' : Process α) : (s.put q p).put q p' = s.put q p' := by
  rw [put, put, put, List.set_set]

theorem getElem?_put {s : System α} {q : Nat} {p : Process α} (h : s.processes[q]? = some p) (p' : Process α) :
    (s.put q p').processes[q]? = some p' :=
  List.getElem?_set_self (List.getElem?_eq_some_iff.mp h).1

/-- One step of one process. The replies are those that the kernel may give, of which `may` can leave some out.
A process may also be killed at any time. -/
inductive Step (names : Names) (may : (c : Call) → c.Reply → Prop) : System α → System α → Prop
  | call {s : System α} {q : Nat} {table : Table} {c : Call} {next : c.Reply → Prog α} {r : c.Reply} {h : Holding}
      (hp : s.processes[q]? = some ⟨table, .running (.call c next)⟩) (hm : may c r)
      (ha : Answer names c ⟨table, s.pipes⟩ r h) :
      Step names may s { s.put q ⟨h.table, .running (next r)⟩ with pipes := h.pipes }
  | fork {s : System α} {q : Nat} {table : Table} {next : Except Errno Forked → Prog α} (pid : Pid)
      (hp : s.processes[q]? = some ⟨table, .running (.call .fork next)⟩) (hm : may .fork (.ok (.parent pid))) :
      Step names may s { s with
        processes := s.processes.set q ⟨table, .running (next (.ok (.parent pid)))⟩ ++
          [⟨table, .running (next (.ok .child))⟩] }
  | execute {s : System α} {q : Nat} {table : Table} {c : Call} {next : c.Reply → Prog α} {argv : List Bytes}
      (hp : s.processes[q]? = some ⟨table, .running (.call c next)⟩) (hc : argv? c = some argv) :
      Step names may s (s.put q ⟨table.executed, .executing argv⟩)
  | exit {s : System α} {q : Nat} {table : Table} {code : Int} {next : Empty → Prog α}
      (hp : s.processes[q]? = some ⟨table, .running (.call (.exit code) next)⟩) :
      Step names may s (s.put q ⟨.none, .gone⟩)
  | unroll {s : System α} {q : Nat} {table : Table} {σ β : Type} {body : σ → Prog (σ ⊕ β)} {t : σ} {next : β → Prog α}
      (hp : s.processes[q]? = some ⟨table, .running (.loop body t next)⟩) :
      Step names may s (s.put q ⟨table, .running (Prog.unroll body t next)⟩)
  | kill {s : System α} {q : Nat} {p : Process α} (hp : s.processes[q]? = some p) :
      Step names may s (s.put q ⟨.none, .gone⟩)

/-! ### Steps that are not refused -/

section Steps
variable {names : Names} {may : (c : Call) → c.Reply → Prop} {s : System α} {q : Nat} {t : Table} {d : Descriptor}

theorem Step.pipe {next : Except Errno (Descriptor × Descriptor) → Prog α} {reader writer : Descriptor}
    (hp : s.processes[q]? = some ⟨t, .running (.call .pipe next)⟩) (hm : may .pipe (.ok (reader, writer)))
    (hne : reader ≠ writer) (hr : t reader = none) (hw : t writer = none) : Step names may s
      ⟨s.processes.set q ⟨(t.set reader ⟨.reader s.pipes, true⟩).set writer ⟨.writer s.pipes, true⟩,
        .running (next (.ok (reader, writer)))⟩, s.pipes + 1⟩ :=
  .call hp hm ⟨hne, hr, hw, rfl⟩

theorem Step.openFile {path : Bytes} {access : Access} {f : File} {next : Except Errno Descriptor → Prog α}
    (hp : s.processes[q]? = some ⟨t, .running (.call (.openFile path access) next)⟩)
    (hm : may (.openFile path access) (.ok d)) (hd : t d = none) (hf : names path access f) :
    Step names may s (s.put q ⟨t.set d ⟨f, false⟩, .running (next (.ok d))⟩) :=
  .call hp hm ⟨hd, f, hf, rfl⟩

theorem Step.close {e : Entry} {next : Except Errno Unit → Prog α}
    (hp : s.processes[q]? = some ⟨t, .running (.call (.close d) next)⟩) (hm : may (.close d) (.ok ()))
    (he : t d = some e) : Step names may s (s.put q ⟨t.clear d, .running (next (.ok ()))⟩) :=
  .call hp hm ⟨⟨e, he⟩, rfl⟩

theorem Step.duplicate {target : Descriptor} {e : Entry} {next : Except Errno Unit → Prog α}
    (hp : s.processes[q]? = some ⟨t, .running (.call (.duplicate d target) next)⟩)
    (hm : may (.duplicate d target) (.ok ())) (hne : d ≠ target) (he : t d = some e) :
    Step names may s (s.put q ⟨t.set target ⟨e.file, false⟩, .running (next (.ok ()))⟩) :=
  .call (h := ⟨t.set target ⟨e.file, false⟩, s.pipes⟩) hp hm ⟨e, he, (if_neg hne).symm⟩

/-- A call that is nothing to the descriptors. -/
theorem Step.quiet {c : Call} {next : c.Reply → Prog α} {r : c.Reply}
    (hp : s.processes[q]? = some ⟨t, .running (.call c next)⟩) (hm : may c r) (ha : ∀ h, Answer names c h r h) :
    Step names may s (s.put q ⟨t, .running (next r)⟩) :=
  .call hp hm (ha ⟨t, s.pipes⟩)

end Steps

/-- What can be reached by steps of the processes in any order. -/
abbrev Reaches (names : Names) (may : (c : Call) → c.Reply → Prop) : System α → System α → Prop :=
  Relation.ReflTransGen (Step names may)

end System

end JobShell.Descriptors
