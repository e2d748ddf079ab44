import JobShell.Kernel.Signal

/-! # How a process ended

A process ends with an exit code or by a signal. The shell shows both as one number: an exit code as it is, a
signal as 128 and its number. -/

namespace JobShell

/-- The end of a process. -/
inductive Status
  | exited (code : Int)
  | signaled (signal : Signal)
deriving DecidableEq, Repr

namespace Status

/-- The end of a process as one number. -/
def code : Status → Int
  | exited code => code
  | signaled signal => 128 + signal.number

/-- A process succeeds by the exit code 0 and by nothing else. -/
def success (s : Status) : Bool :=
  s == exited 0

/-- How the end of a process is shown. -/
def text : Status → Text
  | exited code => "exited: ".toList ++ Text.ofInt code
  | signaled signal => "signaled: ".toList ++ signal.name

end Status

/-- What the kernel reports of a child. -/
inductive Change
  /-- No child has changed. -/
  | alive
  | exited (pid code : Int)
  | signaled (pid : Int) (signal : Signal) (core : Bool)
  | stopped (pid : Int) (signal : Signal)
  | continued (pid : Int)
deriving DecidableEq, Repr

namespace Change

/-- The end that a report tells of; a stop and a continuation are no end. -/
def status? : Change → Option Status
  | exited _ code => some (.exited code)
  | signaled _ signal _ => some (.signaled signal)
  | _ => none

/-- The child that a report is about. -/
def pid? : Change → Option Int
  | alive => none
  | exited pid _ => some pid
  | signaled pid _ _ => some pid
  | stopped pid _ => some pid
  | continued pid => some pid

end Change

end JobShell
