import JobShell.Session.Output
import JobShell.Session.Source
import JobShell.Shell

/-! # Sessions

A session feeds lines to a shell until the input ends or the shell is told to exit. White space around a line
is dropped, and a line of nothing else is not evaluated. The failure of a line is reported on the standard
error and does not end the session; the failure to read a line does, and so does the failure to write out what
the line has printed. -/

namespace JobShell.Session

/-- What a session makes of the result of a line. -/
def settle : Except Failure Flow → Stoppable Flow
  | .ok flow => do
    Output.flush
    return flow
  | .error f => do
    Output.report f
    Output.flush
    return .proceed

variable {σ κ : Type}

/-- Gives one line of a session to the evaluation. -/
def feed (eval : σ → Text → Prog (Except Failure Flow × σ)) (shell : σ) (line : Text) :
    Prog (Except Stop Flow × σ) :=
  if line.trim.isEmpty then return (.ok .proceed, shell)
  else do
    let (result, shell) ← eval shell line.trim
    let flow ← (settle result).run
    return (flow, shell)

/-- What is left of a session after some lines: the reader and the shell. -/
structure State (κ σ : Type) where
  reader : κ
  shell : σ

/-- Takes one line; nothing is left to do at the end of the input. -/
def next (read : κ → Prog (Except Failure (Option Text) × κ))
    (eval : σ → Text → Prog (Except Failure Flow × σ)) (s : State κ σ) :
    Prog (Except Stop (Option Flow) × State κ σ) := do
  let (line, reader) ← read s.reader
  match line with
  | .error f => return (.error (.failure f), ⟨reader, s.shell⟩)
  | .ok none => return (.ok none, ⟨reader, s.shell⟩)
  | .ok (some line) =>
    let (flow, shell) ← feed eval s.shell line
    return (flow.map some, ⟨reader, shell⟩)

/-- Takes all lines, up to one that exits. The answer is its code, or nothing at the end of the input. -/
def all (read : κ → Prog (Except Failure (Option Text) × κ))
    (eval : σ → Text → Prog (Except Failure Flow × σ)) (s : State κ σ) :
    Prog (Except Stop (Option Int) × State κ σ) :=
  Prog.repeated (fun s => do
    let (step, s) ← next read eval s
    match step with
    | .error e => return .inr (.error e, s)
    | .ok none => return .inr (.ok none, s)
    | .ok (some (.exit code)) => return .inr (.ok (some code), s)
    | .ok (some .proceed) => return .inl s) s

end JobShell.Session
