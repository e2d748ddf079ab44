import JobShell.Config
import JobShell.Session.History
import JobShell.Text.Grapheme

/-! # The prompt

Lines of an interactive shell come from its standard input. A backspace in a line deletes the grapheme before
it. Lines that are not blank are added to the history. The prompt is shown only on terminals that cannot edit
a line. -/

namespace JobShell

/-- A reader of lines that were entered. -/
structure Prompt where
  source : Source
  history : History
  /-- What is shown before a line, if anything is. -/
  shown : Option Text
deriving DecidableEq, Repr

namespace Prompt

/-- Erases characters from the end of a line that is given backwards, as long as they fit into `n` bytes. -/
def eraseBytes : Nat → Text → Text
  | _, [] => []
  | n, c :: rest => if 0 < n && c.utf8Size ≤ n then eraseBytes (n - c.utf8Size) rest else c :: rest

/-- The number of bytes by which a grapheme is remembered, which has eight bits. -/
def rememberedSize (grapheme : Text) : Nat :=
  grapheme.encode.length % 256

/-- A line with the graphemes in it that can be deleted. -/
structure Typed where
  /-- The line backwards. -/
  line : Text := []
  /-- The remembered sizes of the graphemes, the last one first. -/
  sizes : List Nat := []

/-- The line with one more grapheme, or without its last one if that is a backspace. -/
def Typed.next (t : Typed) (grapheme : Text) : Typed :=
  if grapheme = ['\x08'] then
    match t.sizes with
    | [] => t
    | n :: sizes => ⟨eraseBytes n t.line, sizes⟩
  else ⟨grapheme.reverse ++ t.line, rememberedSize grapheme :: t.sizes⟩

/-- Does what the backspaces of a line ask for. -/
def applyBackspaces (line : Text) : Text :=
  ((Text.graphemes line).foldl Typed.next {}).line.reverse

/-- The kinds of terminals that cannot edit a line. -/
def plainTerminals : List Text :=
  ["dumb".toList, "cons25".toList, "emacs".toList]

/-- A reader with the history of the configured file. -/
def start (c : Config) (terminal : Option Text) : Prog Prompt := do
  let empty := History.empty c.historySize
  let history ← match c.historyFile with
    | none => pure empty
    | some path => empty.load path
  let plain := plainTerminals.contains ((terminal.getD []).map Char.toLower)
  return ⟨Source.ofDescriptor 0, history, if plain then some c.prompt else none⟩

/-- Shows what is shown before a line. -/
def invite (p : Prompt) : Action Unit :=
  match p.shown with
  | none => return
  | some prompt => ExceptT.mk do
    match ← Prog.perform (.print prompt) with
    | .error e => return .error (.system e)
    | .ok _ =>
      match ← Prog.perform .flush with
      | .error e => return .error (.system e)
      | .ok _ => return .ok ()

/-- The next line that is entered. -/
def next (p : Prompt) : Prog (Except Failure (Option Text) × Prompt) := do
  match ← p.invite.run with
  | .error f => return (.error f, p)
  | .ok _ =>
    let (line, source) ← p.source.next
    match line with
    | .error f => return (.error f, { p with source })
    | .ok none => return (.ok none, { p with source })
    | .ok (some line) =>
      let line := applyBackspaces line
      let history := if line.isSpace then p.history else p.history.add line
      return (.ok (some line), { p with source, history })

end Prompt

end JobShell
