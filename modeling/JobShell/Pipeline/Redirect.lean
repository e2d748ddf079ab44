import JobShell.Failure

/-! # Redirections

A word that is `<` or `>` redirects the input or the output of its stage. The word behind it names the file.
A stage has one redirection at most: the first operator counts, and what follows its file is dropped. -/

namespace JobShell

/-- Which standard stream is redirected. -/
inductive Direction
  /-- The input is read from the file. -/
  | input
  /-- The output goes to the file, which is created or emptied. -/
  | output
deriving DecidableEq, Repr

namespace Direction

/-- The operator of a direction. -/
def operator : Direction → Text
  | input => ['<']
  | output => ['>']

/-- The direction of an operator. -/
def ofWord? (w : Text) : Option Direction :=
  if w = ['<'] then some input else if w = ['>'] then some output else none

theorem ofWord?_operator (d : Direction) : ofWord? d.operator = some d := by
  cases d <;> rfl

end Direction

/-- A redirection of one standard stream to a file. -/
structure Redirect where
  direction : Direction
  target : Text
deriving DecidableEq, Repr

namespace Redirect

/-- The first operator among words, with the number of words in front of it. -/
def first? (words : List Text) : Option (Nat × Direction) :=
  words.zipIdx.findSome? fun (word, i) => (Direction.ofWord? word).map fun direction => (i, direction)

/-- Takes the redirection off words, together with all that follows its operator: what was found, and the words that are
left. An operator without a target is not taken off. -/
def detach (words : List Text) : Except Failure (Option Redirect) × List Text :=
  match first? words with
  | none => (.ok none, words)
  | some (i, direction) =>
    match words[i + 1]? with
    | none => (.error (.missingTarget direction.operator), words)
    | some target => (.ok (some ⟨direction, target⟩), words.take i)

/-- Splits words into the arguments in front of the first operator and the redirection it stands for. -/
def resolve (words : List Text) : Except Failure (List Text × Option Redirect) :=
  match detach words with
  | (.ok redirect, args) => .ok (args, redirect)
  | (.error f, _) => .error f

end Redirect

end JobShell
