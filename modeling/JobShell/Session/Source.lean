import JobShell.Kernel.Prog

/-! # Lines of a source

A source gives the lines of a file, or of bytes that are all there from the start. A line ends at a line feed,
which does not belong to it, nor does a carriage return right before it; the last line may end without. A line
that is no UTF-8 is an error and is used up all the same, so that reading can go on behind it. -/

namespace JobShell

/-- Where lines come from. -/
structure Source where
  /-- The file that is read when the bytes are used up. -/
  descriptor : Option Descriptor
  /-- What has been read and not been used. -/
  bytes : Bytes
deriving DecidableEq, Repr

namespace Source

/-- The source whose bytes are all there. -/
def ofBytes (bytes : Bytes) : Source := ⟨none, bytes⟩

/-- The source that reads from an open file. -/
def ofDescriptor (d : Descriptor) : Source := ⟨some d, []⟩

def lineFeed : UInt8 := 10
def carriageReturn : UInt8 := 13

/-- Takes a carriage return off the end of a line. -/
def chomp (line : Bytes) : Bytes :=
  if line.getLast? = some carriageReturn then line.dropLast else line

/-- The line up to the first line feed, and what is behind it. -/
def cut? (bytes : Bytes) : Option (Bytes × Bytes) :=
  match bytes.dropWhile (· != lineFeed) with
  | [] => none
  | _ :: rest => some (bytes.takeWhile (· != lineFeed), rest)

/-- The text of a line. -/
def textOf (line : Bytes) : Except Failure Text :=
  match Text.decode? line with
  | some t => .ok t
  | none => .error .notText

/-- How much is read at once. -/
def blockSize : Nat := 8192

/-- The next line, with what ended it: true for a line feed, false for the end of the input. -/
def nextPiece (s : Source) : Prog (Except Failure (Option (Bytes × Bool)) × Source) :=
  Prog.repeated (fun (s : Source) => do
    match cut? s.bytes with
    | some (line, rest) => return .inr (.ok (some (line, true)), { s with bytes := rest })
    | none =>
      let block ← match s.descriptor with
        | none => pure (.ok [])
        | some d => Prog.perform (.read d blockSize)
      match block with
      | .error e => return .inr (.error (.system e), { s with bytes := [] })
      | .ok [] =>
        return .inr (.ok (if s.bytes.isEmpty then none else some (s.bytes, false)), { s with bytes := [] })
      | .ok block => return .inl { s with bytes := s.bytes ++ block }) s

/-- The next line, or nothing at the end of the input. -/
def next (s : Source) : Prog (Except Failure (Option Text) × Source) := do
  let (piece, s) ← s.nextPiece
  match piece with
  | .error f => return (.error f, s)
  | .ok none => return (.ok none, s)
  | .ok (some (line, ended)) => return ((textOf (if ended then chomp line else line)).map some, s)

/-- The source that reads from a file. -/
def ofFile (path : Bytes) : Prog (Except Errno Source) := do
  match ← Prog.perform (.openFile path .reading) with
  | .error e => return .error e
  | .ok d => return .ok (ofDescriptor d)

/-- Closes the file of a source. -/
def finish (s : Source) : Prog Unit :=
  match s.descriptor with
  | none => return
  | some d => do
    let _ ← Prog.perform (.close d)

end Source

end JobShell
