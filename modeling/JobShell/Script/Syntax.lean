import JobShell.Utility.Basic

/-! # Scripts

A script is a program for `sh`. Its words are made of parts, some of which stand for values that are only
known when the script runs; its commands run programs, redirect their streams, and control one another. -/

namespace JobShell.Script

/-- How the value of a parameter is used. -/
inductive Form
  | plain
  | length
  /-- Something else takes the place of the value, or of no value: the operator is `-`, `=`, `?` or `+`. An
  empty value counts as none if `orEmpty`. -/
  | alternative (operator : Char) (orEmpty : Bool)
  /-- The value without what matches a pattern at its beginning or its end. -/
  | trim (atEnd longest : Bool)
  /-- What stands behind the name has no meaning. -/
  | bad
deriving DecidableEq, Repr

/-- How a descriptor is redirected to a file. -/
inductive Direction
  | input
  | output
  /-- A file that is there is replaced in any case. -/
  | force
  | append
  | both
deriving DecidableEq, Repr

mutual

/-- A part of a word. What is quoted is neither split nor a pattern. -/
inductive Part
  | text (bytes : Bytes) (quoted : Bool)
  /-- There were quotes here, so the word is there even if it is empty. -/
  | mark
  | parameter (name : Bytes) (form : Form) (inside : List Part) (quoted : Bool)
  /-- The output of commands. -/
  | output (commands : List Command) (quoted : Bool)
  /-- The value of an arithmetic expression. -/
  | arithmetic (inside : List Part) (quoted : Bool)

/-- A descriptor that is redirected. -/
inductive Redirection
  | file (d : Nat) (direction : Direction) (path : List Part)
  /-- The descriptor stands for what another one stands for, or is closed. -/
  | copy (d : Nat) (source : List Part)
  /-- The descriptor reads a text of the script, which is known by a number. -/
  | document (d : Nat) (number : Nat)

/-- A command; the numbers are those of lines. -/
inductive Command
  | simple (line : Nat) (assignments words : List (List Part)) (redirections : List Redirection)
  | pipeline (stages : List Command)
  | negated (c : Command)
  | both (first second : Command)
  | either (first second : Command)
  | sequence (all : List Command)
  | background (line : Nat) (c : Command)
  | subshell (line : Nat) (c : Command) (redirections : List Redirection)
  | redirected (line : Nat) (c : Command) (redirections : List Redirection)
  | conditional (test yes : Command) (no : Option Command)
  /-- A loop as long as the test has the outcome. -/
  | loop (outcome : Bool) (test body : Command)
  | forEach (line : Nat) (name : Bytes) (words : List (List Part)) (body : Command)
  | choice (line : Nat) (word : List Part) (cases : List (List (List Part) × Command))
  | define (line : Nat) (name : Bytes) (body : Command)

end

instance : Inhabited Command := ⟨.sequence []⟩

/-- A word of a script. -/
abbrev Word := List Part

/-! ### Names -/

/-- Whether a byte can begin a name. -/
def isNameStart (b : UInt8) : Bool :=
  Utility.isLetter b || b == 95

/-- Whether a byte can be in a name. -/
def isNameByte (b : UInt8) : Bool :=
  isNameStart b || Utility.isDigit b

/-- Whether a text is a name. -/
def isName (text : Bytes) : Bool :=
  text.head?.any isNameStart && text.all isNameByte

/-- Whether a parameter is known by a character: one of `@`, `*`, `#`, `?`, `$`, `!` and `-`. -/
def isSpecial (b : UInt8) : Bool :=
  [64, 42, 35, 63, 36, 33, 45].contains b

/-- The builtins that belong to the language: no function has such a name, variables that are set in front of
them stay set, and what goes wrong in them ends the script. -/
def specialBuiltins : List String :=
  [".", ":", "break", "continue", "eval", "exec", "exit", "export", "local", "readonly", "return", "set",
   "shift",
   "times", "trap", "unset"]

/-- Whether a name is that of a builtin that belongs to the language. -/
def isSpecialBuiltin (name : Bytes) : Bool :=
  specialBuiltins.any fun n => Utility.ascii n == name

/-- The text of a word that has no quotes and stands for itself. -/
def Word.plain? (w : Word) : Option Bytes :=
  match w with
  | [.text bytes false] => some bytes
  | _ => none

/-- Whether a word sets a variable. -/
def Word.isAssignment (w : Word) : Bool :=
  match w with
  | .text bytes false :: _ => bytes.contains 61 && isName (bytes.takeWhile (· != 61))
  | _ => false

end JobShell.Script
