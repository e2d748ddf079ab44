import JobShell.Script.Scope

/-! # Children

The processes that a script starts. A script waits for those in the foreground, and says how they ended if a
signal has ended them; of those in the background it remembers how they ended until it asks for that. -/

namespace JobShell.Script

open Utility (ascii)

/-- The number of the process that a report is about. -/
def reportedPid? : Report → Option Pid
  | .exited pid _ | .signaled pid _ _ => some pid
  | _ => none

/-- The status that a report stands for. -/
def codeOf : Report → Int
  | .exited _ code => code
  | .signaled _ signal _ => 128 + signal
  | _ => 0

/-- Whether it is said that a signal has ended a process. -/
def isTold (signal : Nat) : Bool :=
  signal != 2 && signal != 13

/-- Says that a signal has ended a process. -/
def tell : Report → Run Unit
  | .signaled _ signal core =>
    if isTold signal then
      Run.lift (Utility.warn (signalText signal ++ (if core then ascii " (core dumped)" else []) ++ [10]))
    else return
  | _ => return

/-- Children with a report put to the one it is about. -/
def recordIn (children : List Child) (r : Report) : List Child :=
  children.map fun c => if some c.pid = reportedPid? r then { c with report := some r } else c

/-- Keeps a report about a child in the background. -/
def record (r : Report) : Run Unit :=
  modify fun s => { s with work := s.work.map fun w => { w with children := recordIn w.children r } }

/-- Takes note of the signals that have come. -/
def noteSignals : Run Unit := do
  let came ← Run.serve .noted
  modify fun s => { s with arrived := s.arrived ++ came.filter fun n => !s.arrived.contains n }

/-- Whether all of several children have ended. -/
def allEnded (children : List Child) : Bool :=
  children.all (·.report.isSome)

/-- Whether the work is done. -/
def Work.isDone (w : Work) : Bool :=
  allEnded w.children

/-- The status of several children: that of the last. -/
def statusOf (children : List Child) : Int :=
  match (children.getLast?).bind (·.report) with
  | some r => codeOf r
  | none => 0

/-- Waits for children in the foreground, and answers their status. -/
def awaitChildren (pids : List Pid) : Run Int :=
  Run.repeated (fun (children : List Child) => do
    if allEnded children then return .inr (statusOf children)
    else
      match ← Run.perform (.wait (-1) true) with
      | .error e =>
        if e = .interrupted then
          noteSignals
          return .inl children
        else return .inr (statusOf children)
      | .ok r =>
        if children.any fun c => some c.pid = reportedPid? r then
          tell r
          return .inl (recordIn children r)
        else
          record r
          return .inl children) (pids.map fun pid => ⟨pid, none⟩)

/-- Waits until work in the background is done; what happens to that with the number `told` is told. A signal
ends the waiting, which the answer says. -/
def awaitWork (told : Option Nat) (done : Scope → Bool) : Run Bool :=
  Run.repeated (fun _ => do
    if done (← get) then return .inr true
    else
      match ← Run.perform (.wait (-1) true) with
      | .error e =>
        if e = .interrupted then
          noteSignals
          return .inr false
        else return .inr true
      | .ok r =>
        record r
        if (← get).work.any fun w =>
            some w.number = told && w.children.any fun c => some c.pid = reportedPid? r then
          tell r
        return .inl ()) ()

/-- Takes note of the children that have ended. -/
def collectChildren : Run Unit :=
  Run.repeated (fun _ => do
    match ← Run.perform (.wait (-1) false) with
    | .ok r =>
      if (reportedPid? r).isSome then
        record r
        return .inl ()
      else return .inr ()
    | .error _ => return .inr ()) ()

/-- The work that the number of a process stands for. -/
def workOf? (s : Scope) (pid : Pid) : Option Work :=
  s.work.find? fun w => (w.children.getLast?.map (·.pid)) = some pid

/-- The work that is meant by a percent sign and what is behind it; without a number the last one is. -/
def numberedWork? (s : Scope) (text : Bytes) : Option Work :=
  match text, Utility.readNat? text with
  | _, some n => s.work.find? (·.number = n)
  | [], none | [37], none | [43], none => s.work.getLast?
  | [45], none => s.work.dropLast.getLast?
  | _, none => none

/-- The lowest number from `n` on under which no work is known that matters. -/
def freeNumber (work : List Work) : Nat → Nat → Nat
  | 0, n => n
  | fuel + 1, n =>
    if work.any fun w => w.number = n && !(w.isDone && w.known) then freeNumber work fuel (n + 1) else n

/-- Remembers children in the background. -/
def addWork (pids : List Pid) : Run Unit :=
  modify fun s =>
    let number := freeNumber s.work s.work.length 1
    { s with
      work := s.work.filter (·.number != number) ++ [⟨number, pids.map fun pid => ⟨pid, none⟩, false⟩]
      last := pids.getLast? }

/-- What a child process begins with: it has no children, and traps only for what is ignored. -/
def Scope.asChild (s : Scope) : Scope :=
  { s with
    work := [], written := [], arrived := [], traps := s.traps.filter fun t => t.2.isEmpty && t.1 != 0 }

/-- Gives the signals that have traps their usual meaning. -/
def clearTraps (s : Scope) : Prog Unit :=
  s.traps.forM fun t =>
    if t.1 = 0 || t.2.isEmpty then return else Prog.perform (.service (.react t.1 .default))

/-- Starts a child that runs a program, which gets what is around the commands. -/
def startChild (program : Scope → Prog Empty) : Run Pid := do
  match ← Run.perform .fork with
  | .error _ => Run.fail (ascii "Cannot fork")
  | .ok (.parent child) => return child
  | .ok .child =>
    ExceptT.mk fun s => Prog.never do
      clearTraps s
      if let some d := s.source then
        let _ ← Prog.perform (.close d)
      program { s.asChild with source := none }

end JobShell.Script
