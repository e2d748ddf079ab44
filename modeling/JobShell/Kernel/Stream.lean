import JobShell.Kernel.Prog

/-! # Streams

Reading and writing as much as there is. One call reads a block or writes a part; these programs repeat it. -/

namespace JobShell.Stream

/-- How much is read at once. -/
def blockSize : Nat := 65536

/-- Writes bytes until all are written or writing fails. -/
def write (d : Descriptor) (bytes : Bytes) : Prog (Except Errno Unit) :=
  Prog.repeated (fun (bytes : Bytes) => do
    if bytes.isEmpty then return .inr (.ok ())
    else
      match ← Prog.perform (.write d bytes) with
      | .error e => return .inr (.error e)
      | .ok n => return .inl (bytes.drop n)) bytes

/-- Gives the blocks of an input to `f` one after the other, until the input ends or `f` has an answer. -/
def fold {σ : Type} (d : Descriptor) (f : σ → Bytes → Prog (σ ⊕ σ)) (s : σ) : Prog (Except Errno σ) :=
  Prog.repeated (fun (s : σ) => do
    match ← Prog.perform (.read d blockSize) with
    | .error e => return .inr (.error e)
    | .ok [] => return .inr (.ok s)
    | .ok block =>
      match ← f s block with
      | .inl s => return .inl s
      | .inr s => return .inr (.ok s)) s

/-- All that an input holds. -/
def readAll (d : Descriptor) : Prog (Except Errno Bytes) := do
  let blocks ← fold d (fun blocks block => return .inl (block :: blocks)) ([] : List Bytes)
  return blocks.map fun blocks => blocks.reverse.flatten

/-- Copies an input to an output. -/
def copy (source target : Descriptor) : Prog (Except Errno Unit) := do
  let result ← fold source (fun _ block => do
    let _ ← write target block
    return .inl ()) ()
  return result

end JobShell.Stream
