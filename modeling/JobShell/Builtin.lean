import JobShell.Job.Registry
import JobShell.Job.Terminal
import JobShell.Pipeline.Basic
import JobShell.Text.Number

/-! # Builtins

Five commands are run by the shell itself, as they change the shell: `exit`, `cd` and the three that look
after jobs. A builtin is asked for by a line of one stage; in a pipe its name is that of a program. -/

namespace JobShell

/-- What to do after a line. -/
inductive Flow
  | proceed
  | exit (code : Int)
deriving DecidableEq, Repr

/-- A command of the shell itself. -/
inductive Builtin
  | exit
  | cd
  | jobs
  | fg
  | bg
deriving DecidableEq, Repr

namespace Builtin

def name : Builtin → Text
  | exit => "exit".toList
  | cd => "cd".toList
  | jobs => "jobs".toList
  | fg => "fg".toList
  | bg => "bg".toList

/-- How a builtin is called. -/
def usage : Builtin → Text
  | exit => "exit [code]".toList
  | cd => "cd <dir>".toList
  | jobs => "jobs".toList
  | fg => "fg <job_id>".toList
  | bg => "bg <job_id>".toList

/-- The builtin with a name. -/
def ofName? (t : Text) : Option Builtin :=
  [exit, cd, jobs, fg, bg].find? fun b => b.name == t

/-- The failure of a builtin that was called with the wrong number of arguments. -/
def misused (b : Builtin) : Failure :=
  .usage b.name b.usage

/-- The exit code that the arguments of `exit` ask for. -/
def exitCode : List Text → Except Failure Int
  | [] => .ok 0
  | [code] =>
    match Text.readSigned code with
    | .ok n => .ok n
    | .error e => .error (.exitCode e)
  | _ => .error exit.misused

/-- The id that an argument names; a percent sign may stand in front. -/
def readId? (argument : Text) : Option Nat :=
  (Text.readUnsigned (match argument with
    | '%' :: digits => digits
    | _ => argument)).toOption

/-- The id that the arguments of `fg` and `bg` name. -/
def jobId (b : Builtin) : List Text → Except Failure Nat
  | [argument] =>
    match readId? argument with
    | some id => .ok id
    | none => .error (.invalidJobId b.name argument)
  | _ => .error b.misused

/-- Finds the job that the arguments of `fg` and `bg` name. -/
def findJob (b : Builtin) (args : List Text) : Action Job := do
  let id ← ExceptT.mk (pure (b.jobId args))
  match ← ExceptT.lift (Registry.find? id) with
  | some job => return job
  | none => throw (.noSuchJob b.name id)

/-- Writes a line to the output of the shell. -/
def printLine (line : Text) : Action Unit :=
  ExceptT.mk do
    match ← Prog.perform (.print (line ++ ['\n'])) with
    | .ok _ => return .ok ()
    | .error e => return .error (.system e)

/-- Continues the processes of a group; a group without processes is no failure. -/
def resume (b : Builtin) (group : Pid) : Action Unit :=
  ExceptT.mk do
    match ← Prog.perform (.killGroup group Signal.resume.number) with
    | .ok _ => return .ok ()
    | .error e => if e = .noProcess then return .ok () else return .error (.resume b.name e)

/-- Changes the directory of the shell. -/
def changeDirectory : List Text → Action Unit
  | [path] =>
    if '\x00' ∈ path then throw (.directoryNul path)
    else ExceptT.mk do
      match ← Prog.perform (.changeDirectory path.encode) with
      | .ok _ => return .ok ()
      | .error e => return .error (.directory path e)
  | _ => throw cd.misused

/-- Writes a line for each job, newest first. -/
def listJobs : Action Unit := do
  let jobs ← ExceptT.lift Registry.list
  jobs.forM fun job => printLine job.line

/-- Continues a job in the foreground and waits for its leader. The terminal, if there is one, is handed to
the job meanwhile. -/
def foreground (args : List Text) : Action Unit := do
  let job ← fg.findJob args
  printLine job.text
  let terminal ← ExceptT.lift (Prog.perform (.isTerminal Terminal.descriptor))
  if terminal then
    let _ ← ExceptT.lift (Terminal.setForeground job.group)
  fg.resume job.group
  let status ← ExceptT.lift (waitFor job.pid)
  if terminal then
    let _ ← ExceptT.lift Terminal.reclaim
  let _ ← ExceptT.lift (Registry.remove job.pid)
  match status with
  | .ok _ => return
  | .error f => throw f

/-- Continues a job in the background. -/
def background (args : List Text) : Action Unit := do
  let job ← bg.findJob args
  bg.resume job.group

/-- Runs a builtin. -/
def run (b : Builtin) (args : List Text) : Action Flow :=
  match b with
  | exit => ExceptT.mk (pure ((exitCode args).map Flow.exit))
  | cd => do
    changeDirectory args
    return .proceed
  | jobs => do
    listJobs
    return .proceed
  | fg => do
    foreground args
    return .proceed
  | bg => do
    background args
    return .proceed

end Builtin

end JobShell
