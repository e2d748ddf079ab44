import JobShell.Kernel.Prog

/-! # The terminal

A terminal has one foreground group, which gets its input and its keyboard signals. The shell hands its
terminal to a job and takes it back. A process that is not in the foreground would be stopped by the signal
`SIGTTOU` when it does so; the shell keeps this signal blocked meanwhile. -/

namespace JobShell.Terminal

/-- The standard input, where the terminal is if there is one. -/
def descriptor : Descriptor := 0

/-- Makes a group the foreground group. -/
def setForeground (group : Pid) : Prog (Except Errno Unit) := do
  Prog.perform (.blockSignal .terminalOutput true)
  let result ← Prog.perform (.setForeground descriptor group)
  Prog.perform (.blockSignal .terminalOutput false)
  return result

/-- Makes the group of the shell the foreground group. -/
def reclaim : Prog (Except Errno Unit) := do
  setForeground (← Prog.perform .ownGroup)

end JobShell.Terminal
