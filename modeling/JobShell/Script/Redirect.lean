import JobShell.Script.Children
import JobShell.Script.Expansion

/-! # Redirection

Descriptors are redirected in the process of the script, before a command runs; what they stood for is kept
under other descriptors, and put back behind the command. -/

namespace JobShell.Script

open Utility (ascii digits)

/-- What a descriptor stood for: a descriptor that was kept, or nothing. -/
structure Kept where
  d : Descriptor
  kept : Option Descriptor

/-- Where the script keeps descriptors. -/
def leastKept : Descriptor := 10

/-- Why a file cannot be opened, or created. -/
def openFault (creates : Bool) (path : Bytes) (e : Errno) : Bytes :=
  let why :=
    if e = .noEntry || e = .notDirectory then
      ascii (if creates then "Directory nonexistent" else "No such file")
    else e.libraryText.encode
  ascii (if creates then "cannot create " else "cannot open ") ++ path ++ ascii ": " ++ why

/-- How a file is opened. -/
def accessOf (keepsOld : Bool) : Direction → Access
  | .input => .reading
  | .output => if keepsOld then .creating 0o666 else .replacing 0o666
  | .force => .replacing 0o666
  | .append => .appending 0o666
  | .both => .both 0o666

/-- What a redirection leads to, once its words are expanded. -/
inductive Destination
  | file (path : Bytes) (direction : Direction)
  | copy (source : Descriptor)
  | closed
  | text (bytes : Bytes)

/-- Expands the words of a redirection. -/
def destinationOf (run : List Command → Run Bytes) : Redirection → Run (Descriptor × Destination)
  | .file d direction path => do return (d, .file (← expandText run .atStart path) direction)
  | .copy d source => do
    let text ← expandText run .atStart source
    match text with
    | [45] => return (d, .closed)
    | [b] =>
      if Utility.isDigit b then return (d, .copy (b.toNat - 48))
      else Run.fail (ascii "Syntax error: Bad fd number")
    | _ => Run.fail (ascii "Syntax error: Bad fd number")
  | .document d number => do
    let w := ((← get).documents.find? (·.1 = number)).map (·.2)
    return (d, .text (← expandText run .nowhere (w.getD [])))

/-- Opens a file for a redirection. -/
def openDestination (path : Bytes) (direction : Direction) : Run Descriptor := do
  let s ← get
  let isFile : Bool ← do
    if s.has 'C' && direction = .output then
      match ← Run.serve (.inspect path true) with
      | .ok info => pure (info.kind == .file)
      | .error _ => pure true
    else pure false
  match ← Run.perform (.openFile path (accessOf isFile direction)) with
  | .ok d => return d
  | .error e => Run.fail (openFault (direction != .input) path e)

/-- How much is written to a pipe without a process that does it. -/
def documentSize : Nat := 4096

/-- A descriptor from which a text can be read. -/
def openText (text : Bytes) : Run Descriptor := do
  match ← Run.perform .pipe with
  | .error _ => Run.fail (ascii "Pipe call failed")
  | .ok (reader, writer) =>
    if text.length ≤ documentSize then
      let _ ← Run.lift (Stream.write writer text)
    else
      let _ ← startChild fun _ => do
        let _ ← Prog.perform (.close reader)
        let _ ← Stream.write writer text
        Prog.perform (.exit 0)
    let _ ← Run.perform (.close writer)
    return reader

/-- Keeps what a descriptor stands for, unless it is kept already. -/
def keep (kept : List Kept) (d : Descriptor) : Run (List Kept) := do
  if kept.any fun k => k.d = d then return kept
  else
    match ← Run.serve (.duplicateFrom d leastKept) with
    | .ok copy => return ⟨d, some copy⟩ :: kept
    | .error _ => return ⟨d, none⟩ :: kept

/-- Makes a descriptor stand for what was opened under another one, also for the programs that are run. -/
def takeOver (opened d : Descriptor) : Run Unit := do
  if opened = d then
    if let .ok copy ← Run.serve (.duplicateFrom d leastKept) then
      let _ ← Run.perform (.duplicate copy d)
      let _ ← Run.perform (.close copy)
  else
    let _ ← Run.perform (.duplicate opened d)
    let _ ← Run.perform (.close opened)

/-- Keeps what a descriptor stood for before something was opened, which may have taken its place. -/
def keepBehind (keeps : Bool) (kept : List Kept) (opened d : Descriptor) : Run (List Kept) :=
  if !keeps then return kept
  else if opened = d then return if kept.any fun k => k.d = d then kept else ⟨d, none⟩ :: kept
  else keep kept d

/-- Puts one redirection into effect. With `keeps`, what the descriptor stood for is kept. -/
def redirectOne (keeps : Bool) (kept : List Kept) : Descriptor × Destination → Run (List Kept)
  | (d, .file path direction) => do
    let opened ← openDestination path direction
    let kept ← keepBehind keeps kept opened d
    if opened != d then takeOver opened d
    return kept
  | (d, .text text) => do
    let opened ← openText text
    let kept ← keepBehind keeps kept opened d
    takeOver opened d
    return kept
  | (d, .copy source) => do
    if source = d then return kept
    else
      let kept ← if keeps then keep kept d else pure kept
      match ← Run.perform (.duplicate source d) with
      | .ok _ => return kept
      | .error e => Run.fail (digits source ++ ascii ": " ++ e.libraryText.encode)
  | (d, .closed) => do
    let kept ← if keeps then keep kept d else pure kept
    let _ ← Run.perform (.close d)
    return kept

/-- Puts back what was kept. -/
def putBack (kept : List Kept) : Run Unit :=
  kept.forM fun k => do
    match k.kept with
    | some copy =>
      let _ ← Run.perform (.duplicate copy k.d)
      let _ ← Run.perform (.close copy)
    | none =>
      let _ ← Run.perform (.close k.d)

/-- Forgets what was kept. -/
def dropKept (kept : List Kept) : Run Unit :=
  kept.forM fun k => do
    if let some copy := k.kept then
      let _ ← Run.perform (.close copy)

/-- Puts redirections into effect one after the other; if one fails, those before it are taken back. -/
def redirectAll (keeps : Bool) : List Kept → List (Descriptor × Destination) → Run (List Kept)
  | kept, [] => return kept
  | kept, r :: rest => do
    match ← Run.attempt (redirectOne keeps kept r) with
    | .ok kept => redirectAll keeps kept rest
    | .error e =>
      if keeps then putBack kept
      throw e

end JobShell.Script
