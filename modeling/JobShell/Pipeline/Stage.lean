import JobShell.Pipeline.Redirect
import JobShell.Pipeline.Word

/-! # Stages

A stage runs one program: its arguments, the program's name first, and the files that take the place of its
standard input and output. -/

namespace JobShell

/-- One program with its arguments and redirections. -/
structure Stage where
  args : List Text
  input : Option Text
  output : Option Text
  args_ne_nil : args ≠ []
deriving DecidableEq

namespace Stage

/-- A stage without redirections; it needs a program name. -/
def ofArgs (args : List Text) : Except Failure Stage :=
  if h : args = [] then .error .emptyStage else .ok ⟨args, none, none, h⟩

/-- The name of the program. -/
def name (s : Stage) : Text :=
  s.args.head s.args_ne_nil

/-- The stage that reads its input from a file. -/
def readFrom (s : Stage) (path : Text) : Stage :=
  { s with input := some path }

/-- The stage that writes its output to a file. -/
def writeTo (s : Stage) (path : Text) : Stage :=
  { s with output := some path }

/-- The stage with a redirection. -/
def redirect (s : Stage) : Option Redirect → Stage
  | none => s
  | some ⟨.input, path⟩ => s.readFrom path
  | some ⟨.output, path⟩ => s.writeTo path

/-- Reads a stage from its text, of which at most `limit` words are looked at. -/
def parse (limit : Nat) (t : Text) : Except Failure Stage := do
  let (args, redirect) ← Redirect.resolve (Text.tokenize limit t)
  let stage ← ofArgs args
  return stage.redirect redirect

/-- How a redirection to a file is shown. -/
def showRedirect (d : Direction) : Option Text → Text
  | none => []
  | some path => ' ' :: d.operator ++ ' ' :: path

/-- How a stage is shown: its arguments, then its redirections. -/
def text (s : Stage) : Text :=
  Text.join [' '] s.args ++ showRedirect .input s.input ++ showRedirect .output s.output

end Stage

end JobShell
