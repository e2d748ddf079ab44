import JobShell.Kernel.Errno
import JobShell.Text.Number
import JobShell.Text.Quoted

/-! # Failures

What can go wrong with a line without ending the shell. A failure is a cause; its wording is in `summary`,
which says what failed, and in `message`, which adds why. -/

namespace JobShell

inductive Failure
  /-- A stage without a program name. -/
  | emptyStage
  /-- A redirection operator that ends its stage. -/
  | missingTarget (operator : Text)
  /-- A text with a NUL character, which no program can receive. -/
  | nulByte (text : Text)
  | pipe (reason : Errno)
  | fork (reason : Errno)
  /-- A builtin called with the wrong number of arguments. -/
  | usage (builtin form : Text)
  | invalidJobId (builtin argument : Text)
  | noSuchJob (builtin : Text) (id : Nat)
  /-- The argument of `exit` is no exit code. -/
  | exitCode (reason : Text.NumberError)
  | directory (path : Text) (reason : Errno)
  /-- The path of a directory has a NUL character. -/
  | directoryNul (path : Text)
  /-- A launch in the background has made no process that could lead a job. -/
  | nothingSpawned
  /-- A job's group cannot be continued. -/
  | resume (builtin : Text) (reason : Errno)
  | wait (pid : Int) (reason : Errno)
  | reap (reason : Errno)
  /-- The input is not UTF-8. -/
  | notText
  /-- Reading or writing failed, or opening the file of a session. -/
  | system (reason : Errno)
  | startupFile (path : Text) (reason : Errno)
  /-- The option for a command has no argument. -/
  | commandMissing
deriving DecidableEq, Repr

namespace Text

/-- What is said about a text that is not a number. -/
def NumberError.message : NumberError → Text
  | .empty => "cannot parse integer from empty string".toList
  | .invalidDigit => "invalid digit found in string".toList
  | .tooLarge => "number too large to fit in target type".toList
  | .tooSmall => "number too small to fit in target type".toList

end Text

namespace Failure

/-- What failed. -/
def summary : Failure → Text
  | .emptyStage => "empty command in pipeline".toList
  | .missingTarget operator => "expected a file name after `".toList ++ operator ++ "`".toList
  | .nulByte text => "argument contains a NUL byte: ".toList ++ text.quoted
  | .pipe _ => "failed to create a pipe".toList
  | .fork _ => "failed to fork".toList
  | .usage builtin form => builtin ++ ": usage: ".toList ++ form
  | .invalidJobId builtin argument => builtin ++ ": invalid job id: ".toList ++ argument
  | .noSuchJob builtin id => builtin ++ ": no such job: ".toList ++ Text.ofNat id
  | .exitCode _ => "exit: Failed to parse a number.".toList
  | .directory path _ => "cd: ".toList ++ path
  | .directoryNul path => "cd: ".toList ++ path
  | .nothingSpawned => "Nothing was spawned.".toList
  | .resume builtin _ => builtin ++ ": Failed to continue the job.".toList
  | .wait pid _ => "Failed to wait for process ".toList ++ Text.ofInt pid ++ ".".toList
  | .reap _ => "Failed to reap children.".toList
  | .notText => "stream did not contain valid UTF-8".toList
  | .system reason => reason.libraryMessage
  | .startupFile path _ => "Failed to open ".toList ++ path
  | .commandMissing => "-c requires a command argument".toList

/-- Why it failed, if the summary does not say it. -/
def cause? : Failure → Option Text
  | .pipe reason => some reason.message
  | .fork reason => some reason.message
  | .exitCode reason => some reason.message
  | .directory _ reason => some reason.libraryMessage
  | .directoryNul _ => some "file name contained an unexpected NUL byte".toList
  | .resume _ reason => some reason.message
  | .wait _ reason => some reason.message
  | .reap reason => some reason.message
  | .startupFile _ reason => some reason.libraryMessage
  | _ => none

/-- What failed, and why. -/
def message (f : Failure) : Text :=
  match f.cause? with
  | some cause => f.summary ++ ": ".toList ++ cause
  | none => f.summary

/-- The failures that leave the shell as it was, so that the line may count as not entered. -/
def isClassified : Failure → Bool
  | .emptyStage | .missingTarget _ | .nulByte _ | .pipe _ | .fork _ | .usage _ _ | .invalidJobId _ _
  | .noSuchJob _ _ => true
  | _ => false

end Failure

end JobShell
