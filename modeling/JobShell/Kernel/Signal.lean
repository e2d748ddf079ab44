import JobShell.Text.Basic

/-! # Signals

The kernel numbers its signals from 1 to 64. The first 31 have names; the others can be sent all the same, and
a process can die of them. -/

namespace JobShell

/-- A signal that has a name. -/
inductive Signal
  | hangup
  | interrupt
  | quit
  | illegal
  | trap
  | abort
  | bus
  | floatingPoint
  | kill
  | user1
  | segmentation
  | user2
  | pipe
  | alarm
  | terminate
  | stackFault
  | child
  | resume
  | stop
  | terminalStop
  | terminalInput
  | terminalOutput
  | urgent
  | processorTime
  | fileSize
  | virtualAlarm
  | profiling
  | window
  | inputOutput
  | power
  | system
deriving DecidableEq, Repr

namespace Signal

/-- The signals in the order of their numbers, with their names behind `SIG`. -/
def table : List (Signal × String) :=
  [(.hangup, "HUP"), (.interrupt, "INT"), (.quit, "QUIT"), (.illegal, "ILL"), (.trap, "TRAP"),
   (.abort, "ABRT"), (.bus, "BUS"), (.floatingPoint, "FPE"), (.kill, "KILL"), (.user1, "USR1"),
   (.segmentation, "SEGV"), (.user2, "USR2"), (.pipe, "PIPE"), (.alarm, "ALRM"), (.terminate, "TERM"),
   (.stackFault, "STKFLT"), (.child, "CHLD"), (.resume, "CONT"), (.stop, "STOP"),
   (.terminalStop, "TSTP"), (.terminalInput, "TTIN"), (.terminalOutput, "TTOU"), (.urgent, "URG"),
   (.processorTime, "XCPU"), (.fileSize, "XFSZ"), (.virtualAlarm, "VTALRM"), (.profiling, "PROF"),
   (.window, "WINCH"), (.inputOutput, "IO"), (.power, "PWR"), (.system, "SYS")]

/-- The number of a signal. -/
def number : Signal → Nat
  | .hangup => 1
  | .interrupt => 2
  | .quit => 3
  | .illegal => 4
  | .trap => 5
  | .abort => 6
  | .bus => 7
  | .floatingPoint => 8
  | .kill => 9
  | .user1 => 10
  | .segmentation => 11
  | .user2 => 12
  | .pipe => 13
  | .alarm => 14
  | .terminate => 15
  | .stackFault => 16
  | .child => 17
  | .resume => 18
  | .stop => 19
  | .terminalStop => 20
  | .terminalInput => 21
  | .terminalOutput => 22
  | .urgent => 23
  | .processorTime => 24
  | .fileSize => 25
  | .virtualAlarm => 26
  | .profiling => 27
  | .window => 28
  | .inputOutput => 29
  | .power => 30
  | .system => 31

/-- The signal with a number, if it has a name. -/
def ofNumber? (n : Nat) : Option Signal :=
  (table.find? fun r => r.1.number == n).map (·.1)

/-- The name of a signal without `SIG` in front. -/
def shortName (s : Signal) : Text :=
  match table.find? fun r => r.1 == s with
  | some (_, name) => name.toList
  | none => []

/-- The full name of a signal. -/
def name (s : Signal) : Text :=
  "SIG".toList ++ s.shortName

/-- The signal with a full name. -/
def ofName? (t : Text) : Option Signal :=
  (table.find? fun r => "SIG".toList ++ r.2.toList == t).map (·.1)

theorem ofNumber?_number (s : Signal) : ofNumber? s.number = some s := by
  cases s <;> decide

end Signal

end JobShell
