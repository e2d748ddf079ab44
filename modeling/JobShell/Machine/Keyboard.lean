import JobShell.Machine.Signals

/-! # The keyboard of a terminal

What is typed is collected in a line, which can be mended until it is entered. Some keys are signals for the
processes in the foreground. -/

namespace JobShell.Machine

namespace Terminal

/-- What one key does. -/
inductive Key
  | char (b : UInt8)
  | enter
  | endOfInput
  | erase
  | eraseWord
  | eraseLine
  /-- Makes the next key a character. -/
  | literal
  /-- The key has no effect on what is typed. -/
  | nothing
  | signal (number : Nat)
deriving DecidableEq, Repr

/-- The key of a byte. -/
def Key.ofByte (b : UInt8) : Key :=
  match b.toNat with
  | 3 => .signal SignalNumber.interrupt
  | 4 => .endOfInput
  | 10 | 13 => .enter
  | 17 | 18 | 19 => .nothing
  | 21 => .eraseLine
  | 22 => .literal
  | 23 => .eraseWord
  | 26 => .signal SignalNumber.terminalStop
  | 28 => .signal SignalNumber.quit
  | 127 => .erase
  | _ => .char b

/-- Whether a byte is a letter, a digit or an underscore; letters above the ASCII range are those of
ISO 8859-1. -/
def isWordByte (b : UInt8) : Bool :=
  (48 ≤ b && b ≤ 57) || (65 ≤ b && b ≤ 90) || b == 95 || (97 ≤ b && b ≤ 122) ||
    (192 ≤ b && b != 215 && b != 247)

/-- The line without its last word, and without what is behind that word. -/
def eraseWord (typed : Bytes) : Bytes :=
  ((typed.reverse.dropWhile (!isWordByte ·)).dropWhile isWordByte).reverse

/-- The terminal after a key. A signal drops all that was not read. -/
def press (t : Terminal) : Key → Terminal
  | .char b => { t with typed := t.typed ++ [b] }
  | .enter => { t with typed := [], entered := t.entered ++ [⟨t.typed ++ [10], false⟩] }
  | .endOfInput => { t with typed := [], entered := t.entered ++ [⟨t.typed, true⟩] }
  | .erase => { t with typed := t.typed.dropLast }
  | .eraseWord => { t with typed := eraseWord t.typed }
  | .eraseLine => { t with typed := [] }
  | .literal => { t with literal := true }
  | .nothing => t
  | .signal _ => { t with typed := [], entered := [] }

/-- How many bytes a terminal has room for. -/
def capacity : Nat := 4096

/-- How many bytes a terminal holds; the end of the input counts as one. -/
def held (t : Terminal) : Nat :=
  t.entered.foldl (fun n e => n + e.bytes.length + if e.final then 1 else 0) t.typed.length

/-- The terminal with room for one more key, if it can be had: one place is left free as long as there are
lines to be read, and without such lines the last character of an endless line is given up. -/
def makeRoom? (t : Terminal) : Option Terminal :=
  if t.held + 1 < capacity then some t
  else if !t.entered.isEmpty then none
  else if capacity ≤ t.held then some { t with typed := t.typed.dropLast }
  else some t

end Terminal

namespace State

/-- What one key does at a terminal that has room for it. -/
def pressKey (s : State) (t : Terminal) (b : UInt8) : State :=
  if t.literal then { s with terminal := some ({ t with literal := false }.press (.char b)) }
  else
    let key := Terminal.Key.ofByte b
    let s := { s with terminal := some (t.press key) }
    match key with
    | .signal number => s.postGroup t.foreground number
    | _ => s

/-- Presses keys one after the other; those that there is no room for wait. -/
def pressKeys (s : State) : Bytes → State
  | [] => s
  | b :: rest =>
    match s.terminal with
    | none => s
    | some t =>
      match t.makeRoom? with
      | none => { s with terminal := some { t with waiting := b :: rest } }
      | some t => pressKeys (s.pressKey t b) rest

/-- Presses the keys that are waiting, as far as there is room. -/
def pressWaiting (s : State) : State :=
  match s.terminal with
  | none => s
  | some t => { s with terminal := some { t with waiting := [] } }.pressKeys t.waiting

/-- Types bytes at the terminal. -/
def typeBytes (s : State) (bytes : Bytes) : State :=
  match s.terminal with
  | none => s
  | some t => { s with terminal := some { t with waiting := t.waiting ++ bytes } }.pressWaiting

end State

end JobShell.Machine
