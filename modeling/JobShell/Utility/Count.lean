import JobShell.Utility.Options

/-! # Counting

`wc` counts the lines, words and bytes of its operands. Words are made of characters that can be seen. -/

namespace JobShell.Utility

open Printer

/-- What is counted in an input. -/
structure Counts where
  lines : Nat := 0
  words : Nat := 0
  bytes : Nat := 0
  /-- The columns of the widest line. -/
  width : Nat := 0
  column : Nat := 0
  inWord : Bool := false
deriving Repr

namespace Counts

/-- The counts behind the end of a line, or of what counts as one. -/
def endLine (c : Counts) (column : Nat) : Counts :=
  { c with width := max c.width c.column, column }

/-- The counts with one more byte. -/
def next (c : Counts) (b : UInt8) : Counts :=
  let c := { c with bytes := c.bytes + 1 }
  if isSpace b then
    let c := { c with words := if c.inWord then c.words + 1 else c.words, inWord := false }
    match b.toNat with
    | 10 => { c.endLine 0 with lines := c.lines + 1 }
    | 12 | 13 => c.endLine 0
    | 9 => { c with column := c.column + 8 - c.column % 8 }
    | 32 => { c with column := c.column + 1 }
    | _ => c
  else if isPrintable b then { c with column := c.column + 1, inWord := true }
  else c

/-- The counts at the end of an input. -/
def finish (c : Counts) : Counts :=
  { c.endLine 0 with words := if c.inWord then c.words + 1 else c.words, inWord := false }

/-- The counts of two inputs together. -/
def add (c d : Counts) : Counts :=
  { lines := c.lines + d.lines, words := c.words + d.words, bytes := c.bytes + d.bytes
    width := max c.width d.width }

/-- The counts that the options ask for, in a fixed order. -/
def select (a : Arguments) (c : Counts) : List Nat :=
  let keys := ["l", "w", "m", "c", "L"]
  let asked := if keys.any a.has then a.has else ["l", "w", "c"].contains
  (if asked "l" then [c.lines] else []) ++ (if asked "w" then [c.words] else []) ++
    (if asked "m" then [c.bytes] else []) ++ (if asked "c" then [c.bytes] else []) ++
    (if asked "L" then [c.width] else [])

end Counts

def wcRows : List OptionRow :=
  [⟨some 'c', ["bytes"], .nothing⟩, ⟨some 'm', ["chars"], .nothing⟩, ⟨some 'l', ["lines"], .nothing⟩,
   ⟨some 'L', ["max-line-length"], .nothing⟩, ⟨some 'w', ["words"], .nothing⟩, ⟨none, ["total"], .value⟩]

/-- When the sum of all counts is shown. -/
def totalChoices : List String := ["auto", "always", "only", "never"]

/-- How wide counts are shown: as wide as the size of all files together, and not less than seven places if
there is an input without a size. -/
def countWidth (all : List FileInfo) : Nat :=
  let files := all.filter (·.kind == .file)
  let size := files.foldl (fun n i => n + i.size) 0
  max (digits size).length (if files.length = all.length then 1 else 7)

/-- One line of `wc`. -/
def countLine (width : Nat) (numbers : List Nat) (name : Option Bytes) : Bytes :=
  let label := match name with
    | none => []
    | some name => 32 :: (if name.contains 10 then fileName name else name)
  [32].intercalate (numbers.map fun n => padStart 32 width (digits n)) ++ label ++ [10]

/-- Counts one operand and says so if `shows`; without a name it is the standard input. -/
def countOperand (a : Arguments) (width : Nat) (shows : Bool) (name : Option Bytes) :
    Printer (Option Counts × Bool) := do
  match ← openOperand (name.getD (ascii "-")) with
  | .error e =>
    complainOf (fileName (name.getD [])) e
    return (none, false)
  | .ok d =>
    let (counts, fault) ← repeated (fun (c : Counts) => do
      match ← perform (.read d blockSize) with
      | .error e => return .inr (c, some e)
      | .ok [] => return .inr (c.finish, none)
      | .ok block => return .inl (block.foldl Counts.next c)) {}
    closeOperand d
    if let some e := fault then complainOf (fileName (name.getD (ascii "standard input"))) e
    if shows then say (countLine width (counts.select a) name)
    return (some counts, fault.isNone)

def wc : Utility := printing 1 fun args => do
  let a := Arguments.read wcRows args
  a.check 1
  let total := (a.value? "total").getD (ascii "auto")
  if !totalChoices.any fun w => ascii w == total then
    misuse 1 (invalidChoice "--total" totalChoices total)
  let names := if a.operands.isEmpty then [none] else a.operands.map some
  let known ← names.mapM fun name =>
    match name with
    | none => serve (.describe 0)
    | some name => if name = ascii "-" then serve (.describe 0) else serve (.inspect name true)
  let alone := names.length = 1 && (({} : Counts).select a).length = 1
  let width := if alone then 1 else countWidth (known.filterMap Except.toOption)
  let only := total = ascii "only"
  let results ← names.mapM (countOperand a width !only)
  if only || total = ascii "always" || (total = ascii "auto" && names.length > 1) then
    let sum := (results.filterMap (·.1)).foldl Counts.add {}
    say (countLine (if only then 1 else width) (sum.select a) (if only then none else some (ascii "total")))
  return codeOf (results.all (·.2))

end JobShell.Utility
