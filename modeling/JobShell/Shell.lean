import JobShell.Builtin
import JobShell.Launch.Basic

/-! # The shell

The shell evaluates one line after the other. A line is read as a pipeline; a single stage whose program is
named like a builtin is that builtin, and all else is launched. After each line the shell has a status: that
of the last stage if it was waited for, 0 if there was nothing to wait for, and 1 after a failure. -/

namespace JobShell

/-- What a line asks for. -/
inductive Command
  | builtin (b : Builtin) (args : List Text)
  | external (p : Pipeline)
deriving DecidableEq

/-- What a pipeline asks for. A builtin knows no redirections and no background. -/
def Pipeline.command (p : Pipeline) : Command :=
  match p.stages with
  | [stage] =>
    match Builtin.ofName? stage.name with
    | some b => .builtin b stage.args.tail
    | none => .external p
  | _ => .external p

/-- What the shell keeps from line to line, beside the job table. -/
structure Shell where
  limits : Limits
  status : Int := 0
deriving DecidableEq, Repr

namespace Shell

/-- The line that announces a new job. -/
def announcement (job : Job) : Text :=
  '[' :: Text.ofNat job.id ++ ']' :: ' ' :: Text.ofInt job.pid

/-- Launches a pipeline, and announces the job if it runs in the background. -/
def launchLine (p : Pipeline) : Action (Option Status) := do
  let launched ← ExceptT.mk (launch p)
  match launched with
  | .background job => Builtin.printLine (announcement job)
  | .foreground _ => pure ()
  return launched.last?

/-- Does what a line asks for; the status is that of the last stage, if there is one. -/
def obey (limits : Limits) (line : Text) : Action (Flow × Option Status) :=
  match Pipeline.parse limits line with
  | .error f => throw f
  | .ok p =>
    if p.stages.isEmpty then return (.proceed, none)
    else
      match p.command with
      | .builtin b args => do
        let flow ← b.run args
        return (flow, none)
      | .external p => do
        let status ← launchLine p
        return (.proceed, status)

/-- The status after a line. -/
def statusAfter : Except Failure (Flow × Option Status) → Int
  | .ok (_, some status) => status.code
  | .ok (_, none) => 0
  | .error _ => 1

/-- Evaluates a line. -/
def eval (shell : Shell) (line : Text) : Prog (Except Failure Flow × Shell) := do
  let result ← (obey shell.limits line).run
  return (result.map (·.1), { shell with status := statusAfter result })

end Shell

end JobShell
