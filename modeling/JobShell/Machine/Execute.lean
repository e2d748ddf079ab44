import JobShell.CommandLine
import JobShell.Machine.Perform
import JobShell.Utility.Table

/-! # Becoming another program

A program is found by its path, or by its name along the search path. A file that is no program of the machine
but may be run is a script: of the interpreter that its first line names, or of `sh`. An interpreter may be a
script itself. -/

namespace JobShell.Machine

open Utility (ascii)

/-- The interpreter that a script names, with the one argument that it may give. -/
structure Interpreter where
  path : Bytes
  argument : Option Bytes
deriving DecidableEq, Repr

namespace Interpreter

/-- How much of a script is looked at. -/
def headLength : Nat := 256

def isBlank (b : UInt8) : Bool := b == 32 || b == 9

/-- Whether a byte ends the path of an interpreter. -/
def isTerminator (b : UInt8) : Bool := isBlank b || b == 0

/-- A line without the blanks at its end. -/
def trimEnd (line : Bytes) : Bytes :=
  (line.reverse.dropWhile isBlank).reverse

/-- The line behind the sign of a script. Without its end in sight there is one only if the path of the
interpreter is complete. -/
def line? (body : Bytes) : Option Bytes :=
  let text := body.takeWhile (· != 0)
  if text.contains 10 then some (text.takeWhile (· != 10))
  else if (body.dropWhile isBlank).any isTerminator then some body.dropLast
  else none

/-- Reads a line as the path of an interpreter and an argument. -/
def ofLine? (line : Bytes) : Option Interpreter :=
  match (trimEnd line).dropWhile isBlank with
  | [] => none
  | text =>
    let path := text.takeWhile (!isTerminator ·)
    let rest := text.dropWhile (!isTerminator ·)
    let argument :=
      if rest.head?.any isBlank then some ((rest.dropWhile isBlank).takeWhile (· != 0)) else none
    some ⟨path, argument⟩

/-- The interpreter that the head of a script names. What is missing of the head counts as zeros. -/
def ofScript? (script : Bytes) : Option Interpreter :=
  let head := script.take headLength
  match head ++ List.replicate (headLength - head.length) 0 with
  | 35 :: 33 :: body => (line? body).bind ofLine?
  | _ => none

end Interpreter

namespace State

/-- The shell as a program. A broken pipe is no signal for it but an error, and its arguments have to be texts. -/
def shellProgram : Utility := fun argv => do
  Prog.perform (.service (.react SignalNumber.pipe .ignore))
  match argv.tail.mapM Text.decode? with
  | some args => CommandLine.run args
  | none => return CommandLine.panicCode

/-- What a file is run as: the program of the machine, and the arguments it gets. -/
structure Image where
  program : Utility
  argv : List Bytes

/-- How many scripts may be the interpreters of one another. -/
def maxScripts : Nat := 5

/-- The longest argument of a program. -/
def maxArgument : Nat := 131071

/-- The program that a path leads to, through as many scripts as there may be. -/
def load (s : State) (here : NodeId) : Nat → Bytes → List Bytes → Except Errno Image
  | scripts, path, argv =>
    match s.tree.find? here path with
    | .error e => .error e
    | .ok n =>
      match s.tree.get? n with
      | none => .error .noEntry
      | some node =>
        if !node.allows 1 then .error .accessDenied
        else if argv.any fun arg => maxArgument < arg.length then .error .argumentsTooLong
        else
          match node.content with
          | .program name =>
            match Utility.find? name with
            | some program => .ok ⟨program, argv⟩
            | none => .error .notExecutable
          | .shell => .ok ⟨shellProgram, argv⟩
          | .file script =>
            match Interpreter.ofScript? script, scripts with
            | none, _ => .error .notExecutable
            | some _, 0 => .error .tooManyLinks
            | some i, scripts + 1 =>
              load s here scripts i.path (i.path :: i.argument.toList ++ path :: argv.tail)
          | _ => .error .accessDenied

/-- What `sh` is called. -/
def shellPath : Bytes := ascii "/bin/sh"

/-- The program that a path leads to; a file without an interpreter is a script of `sh`. -/
def imageAt (s : State) (here : NodeId) (path : Bytes) (argv : List Bytes) : Except Errno Image :=
  match s.load here maxScripts path argv with
  | .error e =>
    if e = .notExecutable then s.load here maxScripts shellPath (shellPath :: path :: argv.tail) else .error e
  | image => image

/-- The directories that programs are searched in. -/
def searchPath (environment : List (Bytes × Bytes)) : List Bytes :=
  let value := ((environment.find? fun v => v.1 == ascii "PATH").map (·.2)).getD (ascii "/bin:/usr/bin")
  value.splitOnP (· == 58)

/-- Whether a file that could not be run may be somewhere else. -/
def isPassedOver (e : Errno) : Bool :=
  e == .accessDenied || e == .noEntry || e == .notDirectory

/-- Looks for a program in directories. If it is nowhere, the last error counts, or that there was a file
that may not be run. -/
def search (s : State) (here : NodeId) (name : Bytes) (argv : List Bytes) :
    Errno → List Bytes → Except Errno Image
  | e, [] => .error e
  | before, directory :: rest =>
    match s.imageAt here (if directory.isEmpty then name else directory ++ slash :: name) argv with
    | .ok image => .ok image
    | .error e =>
      if isPassedOver e then search s here name argv (if before = .accessDenied then before else e) rest
      else .error e

/-- The program that arguments ask for. -/
def image (s : State) (p : Process) (argv : List Bytes) : Except Errno Image :=
  let name := argv.headD []
  if name.isEmpty then .error .noEntry
  else if name.contains slash then s.imageAt p.directory name argv
  else if name.length > Tree.maxName then .error .nameTooLong
  else s.search p.directory name argv .noEntry (searchPath p.environment)

/-- Puts a process into the state in which a program begins. -/
def beginProgram (s : State) (pid : Nat) : State :=
  s.update pid fun p =>
    { p with
      executed := true, caught := [], noting := [], noted := [], memory := {},
      table := p.table.filter fun e => !e.closedByExecute }

end State

end JobShell.Machine
