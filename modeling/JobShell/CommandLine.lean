import JobShell.Reaper
import JobShell.Session.Basic
import JobShell.Session.Prompt

/-! # The command line

Without arguments the shell is interactive: it runs the startup file, then the lines that are entered, with
the reaper beside it. With a command it runs the lines of the command and exits with the last status. -/

namespace JobShell.CommandLine

/-- What the arguments ask for. -/
inductive Task
  | interactive
  | help
  | version
  | command (lines : Text)
  | commandMissing
  | unknown (option : Text)
deriving DecidableEq, Repr

/-- What the arguments ask for; only the first counts, and the second if it is a command. -/
def Task.ofArgs : List Text → Task
  | [] => .interactive
  | option :: rest =>
    if option = "--help".toList || option = "-h".toList then .help
    else if option = "--version".toList || option = "-V".toList then .version
    else if option = "-c".toList then
      match rest with
      | [] => .commandMissing
      | lines :: _ => .command lines
    else .unknown option

/-- The name and the version of the shell. -/
def versionText : Text := "pish 0.1.0\n".toList

/-- How the shell is called. -/
def helpText : Text :=
  "pish 0.1.0

Usage:
  pish                 Interactive prompt
  pish -c <line>       Run one line and exit with its status

Options:
  -c <line>            Run a command line and exit
  -h, --help           Show this help
  -V, --version        Show version

Environment:
  PISH_PROMPT, PISH_HISTFILE, PISH_HISTSIZE, PISH_RC,
  PISH_MAX_STAGES, PISH_MAX_TOKENS, PISH_LOG
".toList

/-- What is said about an option that there is not. -/
def unknownText (option : Text) : Text :=
  "Unknown option: ".toList ++ option ++ ['\n']

/-- Where there is more to read about options. -/
def hintText : Text := "Run 'pish --help' for usage.\n".toList

/-- The exit code of a process has eight bits. -/
def exitCode (code : Int) : Int :=
  code % 256

/-- The exit code after a panic. -/
def panicCode : Int := 101

/-- The exit code after a session: the one that was asked for, or else the status of the shell. -/
def codeAfter (asked : Option Int) (shell : Shell) : Int :=
  exitCode (asked.getD shell.status)

/-- The environment of the process. -/
def readEnvironment : Stoppable (List (Bytes × Bytes)) :=
  ExceptT.lift (Prog.perform .environment)

/-- Goes through the lines of a reader. The reader and the shell are there afterwards, however it ends. -/
def session {κ : Type} (read : κ → Prog (Except Failure (Option Text) × κ)) (reader : κ) (shell : Shell) :
    Stoppable (Except Stop (Option Int) × Session.State κ Shell) :=
  ExceptT.lift (Session.all read Shell.eval ⟨reader, shell⟩)

/-- Runs the lines of a command. -/
def runCommand (lines : Text) : Stoppable Int := do
  let config := Config.ofEnvironment (← readEnvironment)
  let (result, state) ← session Source.next (Source.ofBytes lines.encode) { limits := config.limits }
  let asked ← ExceptT.mk (pure result)
  return codeAfter asked state.shell

/-- Runs the startup file, if there is one, and says whether it exits. -/
def runStartup (config : Config) (shell : Shell) : Stoppable (Option Int × Shell) := do
  match config.startupFile with
  | none => return (none, shell)
  | some path =>
    if 0 ∈ path then return (none, shell)
    else
      match ← ExceptT.lift (Prog.perform (.fileKind path)) with
      | .ok .file =>
        match ← ExceptT.lift (Source.ofFile path) with
        | .error e => throw (.failure (.startupFile (Text.decodeLossy path) e))
        | .ok source =>
          let (result, state) ← session Source.next source shell
          ExceptT.lift state.reader.finish
          let asked ← ExceptT.mk (pure result)
          return (asked, state.shell)
      | _ => return (none, shell)

/-- Runs the lines that are entered. -/
def runEntered (prompt : Prompt) (shell : Shell) : Stoppable (Except Stop (Option Int) × Session.State Prompt Shell) := do
  let (result, state) ← session Prompt.next prompt shell
  if let .ok none := result then
    match ← ExceptT.lift (Output.say ['\n']).run with
    | .ok _ => return (result, state)
    | .error e => return (.error e, state)
  else return (result, state)

/-- Runs the lines that are entered, and saves the history behind them. -/
def runPrompt (config : Config) (terminal : Option Text) (shell : Shell) : Stoppable Int := do
  let prompt ← ExceptT.lift (Prompt.start config terminal)
  let (result, state) ← runEntered prompt shell
  if let some path := config.historyFile then
    ExceptT.lift (state.reader.history.save path)
  let asked ← ExceptT.mk (pure result)
  return codeAfter asked state.shell

/-- Runs the startup file and then the lines that are entered. -/
def runInteractive : Stoppable Int := do
  let environment ← readEnvironment
  let config := Config.ofEnvironment environment
  ExceptT.lift (Prog.perform .startReaper)
  let result ← ExceptT.lift (ExceptT.run do
    let (asked, shell) ← runStartup config { limits := config.limits }
    match asked with
    | some code => return exitCode code
    | none => runPrompt config (Config.textIn? environment "TERM".toList) shell)
  ExceptT.lift (Prog.perform .stopReaper)
  ExceptT.mk (pure result)

/-- Does what the arguments ask for, and answers the exit code. -/
def obey : Task → Stoppable Int
  | .interactive => runInteractive
  | .help => do
    Output.say helpText
    return 0
  | .version => do
    Output.say versionText
    return 0
  | .command lines => runCommand lines
  | .commandMissing => throw (.failure .commandMissing)
  | .unknown option => do
    Output.complain (unknownText option)
    Output.complain hintText
    return 1

/-- The exit code of an activity; a failure that it breaks off with is reported. -/
def finish : Except Stop Int → Stoppable Int
  | .ok code => return code
  | .error (.failure f) => do
    Output.report f
    return 1
  | .error .panic => throw .panic

/-- The whole program. What it has not written out until its end is tried once more. -/
def run (args : List Text) : Prog Int := do
  let result ← (obey (Task.ofArgs args)).run
  let code ← (finish result).run
  let _ ← Prog.perform .flush
  match code with
  | .ok code => return code
  | .error _ => return panicCode

end JobShell.CommandLine
