import JobShell.Kernel.Stream
import JobShell.Session.Source

/-! # History

The lines that were entered, oldest first. The history has a largest size, beyond which the oldest entries are
forgotten. It is kept in a file of one entry a line; in its second version, which the first line announces,
line feeds and backslashes inside an entry are escaped. -/

namespace JobShell

/-- Entered lines, oldest first, and how many of them the file does not have. -/
structure History where
  size : Nat
  entries : List Text
  fresh : Nat
deriving DecidableEq, Repr

namespace History

/-- The history without entries. -/
def empty (size : Nat) : History := ⟨size, [], 0⟩

/-- Adds an entry, unless it is empty or repeats the last one. -/
def add (h : History) (entry : Text) : History :=
  if h.size = 0 || entry.isEmpty || h.entries.getLast? = some entry then h
  else
    let kept := if h.entries.length = h.size then h.entries.drop 1 else h.entries
    { h with entries := kept ++ [entry], fresh := min (h.fresh + 1) (kept.length + 1) }

/-- The first line of a file of the second version. -/
def version : Text := "#V2".toList

/-- Reads the escapes of an entry; an entry with any other escape is not an escaped one. -/
def unescape? : Text → Option Text
  | [] => some []
  | '\\' :: '\\' :: rest => (unescape? rest).map ('\\' :: ·)
  | '\\' :: 'n' :: rest => (unescape? rest).map ('\n' :: ·)
  | '\\' :: _ => none
  | c :: rest => (unescape? rest).map (c :: ·)

/-- Writes an entry on one line. -/
def escape (entry : Text) : Text :=
  entry.flatMap fun c => if c = '\\' then ['\\', '\\'] else if c = '\n' then ['\\', 'n'] else [c]

/-- Adds the entry on one line of a file. -/
def addLine (escaped : Bool) (h : History) (line : Text) : History :=
  h.add (if escaped then (unescape? line).getD line else line)

/-- The text of a file with all entries. -/
def text (h : History) : Text :=
  version ++ '\n' :: h.entries.flatMap fun entry => escape entry ++ ['\n']

/-- The permissions of the file. -/
def fileMode : Nat := 0o600

/-- Reads entries up to the end of a file. The entries of a file that was read to its end are not fresh. -/
def readLines (escaped : Option Bool) (h : History) (s : Source) : Prog History :=
  Prog.repeated (fun (escaped, h, s) => do
    let (line, s) ← Source.next s
    match line, escaped with
    | .error _, _ => return .inr h
    | .ok none, _ => return .inr { h with fresh := 0 }
    | .ok (some line), none =>
      if line = version then return .inl (some true, h, s)
      else return .inl (some false, h.add line, s)
    | .ok (some line), some e => return .inl (some e, h.addLine e line, s)) (escaped, h, s)

/-- The history with the entries of a file; a file that is not there has none. -/
def load (h : History) (path : Bytes) : Prog History := do
  match ← Source.ofFile path with
  | .error _ => return h
  | .ok s =>
    let h ← readLines none h s
    s.finish
    return h

/-- Writes the history to a file if it has fresh entries. -/
def save (h : History) (path : Bytes) : Prog Unit :=
  if h.entries.isEmpty || h.fresh = 0 then return
  else do
    match ← Prog.perform (.openFile path (.replacing fileMode)) with
    | .error _ => return
    | .ok d =>
      let _ ← Prog.perform (.setMode d fileMode)
      let _ ← Stream.write d h.text.encode
      let _ ← Prog.perform (.close d)

end History

end JobShell
