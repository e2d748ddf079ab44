import JobShell.Utility.Quoting

/-! # Printers

A printer is a program that collects what it says and writes it in large pieces: when there is enough of it,
when it has something to complain about, and at the end. What cannot be written makes it fail. -/

namespace JobShell.Utility

/-- What a program has said and not yet written. -/
structure Output where
  /-- The name by which the program was called. -/
  name : Bytes
  /-- The exit code if writing fails. -/
  failure : Int := 1
  /-- The pieces that are not yet written, the last one first. -/
  pieces : List Bytes := []
  size : Nat := 0
  /-- Something could not be written. -/
  spoiled : Bool := false

/-- How much is collected before it is written. -/
def Output.capacity : Nat := 4096

/-- Nothing is left to be written. -/
def Output.empty (out : Output) : Output := { out with pieces := [], size := 0 }

/-- What is to be written. -/
def Output.bytes (out : Output) : Bytes := out.pieces.reverse.flatten

/-- A program that says something. -/
abbrev Printer := StateT Output Prog

namespace Printer

/-- Warns in one line that begins with the name of the program. -/
def warnAs (out : Output) (message : Bytes) : Prog Unit :=
  warn (out.name ++ ascii ": " ++ message ++ [10])

/-- Writes what is left and answers the exit code, which says so if that fails. -/
def settle (out : Output) (code : Int) : Prog Int := do
  match ← (if out.pieces.isEmpty then return .ok () else Stream.write 1 out.bytes) with
  | .error e =>
    warnAs out (ascii "write error: " ++ e.libraryText.encode)
    return out.failure
  | .ok _ =>
    if out.spoiled then
      warnAs out (ascii "write error")
      return out.failure
    else return code

/-- Ends the program. -/
def quit {α : Type} (code : Int) : Printer α := fun out =>
  Prog.never do
    let code ← settle out code
    Prog.perform (.exit code)

/-- Writes what was said, and ends the program if that fails. -/
def flush : Printer Unit := fun out => do
  if out.pieces.isEmpty then return ((), out)
  else
    match ← Stream.write 1 out.bytes with
    | .ok _ => return ((), out.empty)
    | .error e =>
      warnAs out (ascii "write error: " ++ e.libraryText.encode)
      Prog.never (Prog.perform (.exit out.failure))

/-- Says something. -/
def say (bytes : Bytes) : Printer Unit := do
  modify fun out =>
    if bytes.isEmpty then out else { out with pieces := bytes :: out.pieces, size := out.size + bytes.length }
  if Output.capacity ≤ (← get).size then flush

/-- Writes what was said before a complaint; a failure shows at the end. -/
def flushQuietly : Printer Unit := fun out => do
  if out.pieces.isEmpty then return ((), out)
  else
    match ← Stream.write 1 out.bytes with
    | .ok _ => return ((), out.empty)
    | .error _ => return ((), { out.empty with spoiled := true })

/-- Complains in one line that begins with the name of the program. -/
def complain (message : Bytes) : Printer Unit := do
  flushQuietly
  warnAs (← get) message

/-- Complains with the reason why something could not be done. -/
def complainOf (what : Bytes) (e : Errno) : Printer Unit :=
  complain (what ++ ascii ": " ++ e.libraryText.encode)

/-- Complains and ends the program. -/
def die {α : Type} (code : Int) (message : Bytes) : Printer α := do
  complain message
  quit code

/-- Says where to learn how the program is called. -/
def pointToHelp : Printer Unit := do
  flushQuietly
  warn (ascii "Try '" ++ (← get).name ++ ascii " --help' for more information.\n")

/-- Complains about the way in which the program was called, and ends it. -/
def misuse {α : Type} (code : Int) (message : Bytes) : Printer α := do
  complain message
  pointToHelp
  quit code

/-- Runs a program that says nothing. -/
def lift {α : Type} (p : Prog α) : Printer α :=
  fun out => do return (← p, out)

/-- Makes a call. -/
def perform (c : Call) : Printer c.Reply :=
  lift (Prog.perform c)

/-- Asks for a service. -/
def serve (c : Service) : Printer c.Reply :=
  lift (Prog.perform (.service c))

/-- Writes bytes to a descriptor at once. -/
def writeAll (d : Descriptor) (bytes : Bytes) : Printer (Except Errno Unit) :=
  lift (Stream.write d bytes)

/-- Runs `body` again and again, each time with the left value of the time before, until it ends right. -/
def repeated {σ β : Type} (body : σ → Printer (σ ⊕ β)) (s : σ) : Printer β := fun out =>
  Prog.repeated (fun (s, out) => do
    let (next, out) ← body s out
    match next with
    | .inl s => return .inl (s, out)
    | .inr b => return .inr (b, out)) (s, out)

/-- Does a step for each of several things, and answers whether all steps went well. -/
def all {α : Type} (things : List α) (step : α → Printer Bool) : Printer Bool := do
  let results ← things.mapM step
  return results.all id

/-- The exit code that says whether all went well. -/
def codeOf (well : Bool) : Int := if well then 0 else 1

/-! ### Input -/

/-- How much is read at once. -/
def blockSize : Nat := 65536

/-- Gives the blocks of an input to `f` one after the other, until the input ends or `f` has an answer. -/
def readBlocks {σ : Type} (d : Descriptor) (size : Nat) (f : σ → Bytes → Printer (σ ⊕ σ)) (s : σ) :
    Printer (Except Errno σ) :=
  repeated (fun (s : σ) => do
    match ← perform (.read d size) with
    | .error e => return .inr (.error e)
    | .ok [] => return .inr (.ok s)
    | .ok block =>
      match ← f s block with
      | .inl s => return .inl s
      | .inr s => return .inr (.ok s)) s

/-- All that an input holds. -/
def readAll (d : Descriptor) : Printer (Except Errno Bytes) := do
  let blocks ← readBlocks d blockSize (fun blocks block => return .inl (block :: blocks)) ([] : List Bytes)
  return blocks.map fun blocks => blocks.reverse.flatten

/-- Opens an operand for reading, where `-` is the standard input. -/
def openOperand (path : Bytes) : Printer (Except Errno Descriptor) :=
  if path = ascii "-" then return .ok 0
  else perform (.openFile path .reading)

/-- Closes what was opened for an operand. -/
def closeOperand (d : Descriptor) : Printer Unit :=
  if d = 0 then return
  else do
    let _ ← perform (.close d)

/-- All that an operand holds. -/
def readOperand (path : Bytes) : Printer (Except Errno Bytes) := do
  match ← openOperand path with
  | .error e => return .error e
  | .ok d =>
    let bytes ← readAll d
    closeOperand d
    return bytes

end Printer

/-- The program that a printer is; `failure` is its exit code if it cannot write. -/
def printing (failure : Int) (body : List Bytes → Printer Int) : Utility := fun argv => do
  let (code, out) ← (body argv.tail).run { name := argv.headD [], failure }
  Printer.settle out code

end JobShell.Utility
