import JobShell.Utility.Numeral
import JobShell.Utility.Options

/-! # Joining lines

`join` puts the lines of two sorted inputs together that have a field in common. -/

namespace JobShell.Utility

open Printer

/-- Where a field that is written comes from: what is common, or a field of one of the inputs. -/
inductive JoinField
  | common
  | of (second : Bool) (n : Nat)
deriving DecidableEq, Repr

/-- How `join` works. Fields are counted from zero. -/
structure JoinOptions where
  separator : Option UInt8 := none
  key1 : Nat := 0
  key2 : Nat := 0
  /-- The lines of the first and of the second input without a partner are written. -/
  alone1 : Bool := false
  alone2 : Bool := false
  /-- The lines with a partner are written. -/
  pairs : Bool := true
  ignoresCase : Bool := false
  /-- What stands for a field that is not there or empty. -/
  filler : Bytes := []
  format : Option (List JoinField) := none
  /-- Whether the order of lines is checked: always, never, or once a line had no partner. -/
  checks : Option Bool := none
deriving Repr

/-- A line with its fields. -/
structure JoinLine where
  text : Bytes
  fields : List Bytes
deriving Repr

namespace JoinOptions

/-- The fields of a line. -/
def fieldsOf (o : JoinOptions) (line : Bytes) : List Bytes :=
  match o.separator with
  | some b => line.splitOnP (· == b)
  | none => (line.splitOnP isBlank).filter (!·.isEmpty)

/-- The field of a line that counts. -/
def key (o : JoinOptions) (second : Bool) (line : JoinLine) : Bytes :=
  (line.fields[if second then o.key2 else o.key1]?).getD []

/-- The order of two fields. -/
def compare (o : JoinOptions) (a b : Bytes) : Ordering :=
  if o.ignoresCase then compareBytes (a.map toUpper) (b.map toUpper) else compareBytes a b

/-- A field as it is written. -/
def shownField (o : JoinOptions) (field : Bytes) : Bytes :=
  if field.isEmpty then o.filler else field

/-- A pair of lines as it is written; one of them may not be there. -/
def shown (o : JoinOptions) (first second : Option JoinLine) : Bytes :=
  let common := match first, second with
    | some line, _ => o.key false line
    | none, some line => o.key true line
    | none, none => []
  let separator := [o.separator.getD 32]
  let fields : List Bytes := match o.format with
    | some format => format.map fun (f : JoinField) =>
      match f with
      | .common => common
      | .of isSecond n => ((if isSecond then second else first).bind fun line => line.fields[n]?).getD []
    | none =>
      let others (k : Nat) (line : Option JoinLine) : List Bytes :=
        (line.map fun line => line.fields.eraseIdx k).getD []
      common :: others o.key1 first ++ others o.key2 second
  separator.intercalate (fields.map o.shownField) ++ [10]

end JoinOptions

/-- One of the two inputs: what is left of it, the line before that, and its number. -/
structure JoinInput where
  name : Bytes
  left : List JoinLine
  last : Option JoinLine := none
  number : Nat := 0
  /-- It was said that the lines are not sorted. -/
  warned : Bool := false
deriving Repr

/-- Takes the next line of an input. It is said once if it should have come before the last one. -/
def JoinInput.advance (o : JoinOptions) (second checked : Bool) (x : JoinInput) : Printer JoinInput := do
  match x.left with
  | [] => return x
  | _ :: left =>
    let x := { x with last := x.left.head?, left, number := x.number + 1 }
    match x.last, left with
    | some last, line :: _ =>
      if checked && !x.warned && o.compare (o.key second last) (o.key second line) = .gt then
        let message := x.name ++ ascii ":" ++ digits (x.number + 1) ++ ascii ": is not sorted: " ++ line.text
        if o.checks = some true then die 1 message
        else
          complain message
          return { x with warned := true }
      else return x
    | _, _ => return x

/-- Takes the lines of an input that have a field in common with its first one. -/
def takeEqual (o : JoinOptions) (second checked : Bool) (common : Bytes) :
    Nat → List JoinLine → JoinInput → Printer (List JoinLine × JoinInput)
  | 0, taken, x => return (taken.reverse, x)
  | fuel + 1, taken, x =>
    match x.left with
    | [] => return (taken.reverse, x)
    | line :: _ => do
      if o.compare (o.key second line) common = .eq then
        let x ← x.advance o second checked
        takeEqual o second checked common fuel (line :: taken) x
      else return (taken.reverse, x)

/-- Joins two inputs, as long as there are lines. The flag says whether a line had no partner. -/
def joinInputs (o : JoinOptions) : Nat → Bool → JoinInput → JoinInput → Printer (JoinInput × JoinInput)
  | 0, _, x, y => return (x, y)
  | fuel + 1, unpaired, x, y => do
    let checked (unpaired : Bool) : Bool := o.checks.getD unpaired
    match x.left, y.left with
    | [], [] => return (x, y)
    | a :: _, [] =>
      if o.alone1 then say (o.shown (some a) none)
      let x ← x.advance o false (checked unpaired)
      joinInputs o fuel unpaired x y
    | [], b :: _ =>
      if o.alone2 then say (o.shown none (some b))
      let y ← y.advance o true (checked unpaired)
      joinInputs o fuel unpaired x y
    | a :: _, b :: _ =>
      match o.compare (o.key false a) (o.key true b) with
      | .lt =>
        if o.alone1 then say (o.shown (some a) none)
        let x ← x.advance o false (checked unpaired)
        joinInputs o fuel true x y
      | .gt =>
        if o.alone2 then say (o.shown none (some b))
        let y ← y.advance o true (checked unpaired)
        joinInputs o fuel true x y
      | .eq =>
        let common := o.key false a
        let (firsts, x) ← takeEqual o false (checked unpaired) common (x.left.length + 1) [] x
        let (seconds, y) ← takeEqual o true (checked unpaired) common (y.left.length + 1) [] y
        if o.pairs then
          firsts.forM fun a => seconds.forM fun b => say (o.shown (some a) (some b))
        -- A line that is left over when the other input has ended has no partner.
        let ended := x.left.isEmpty != y.left.isEmpty
        joinInputs o fuel (unpaired || ended) x y

def joinRows : List OptionRow :=
  [⟨some 'a', [], .value⟩, ⟨some 'v', [], .value⟩, ⟨some 'e', [], .value⟩,
   ⟨some 'i', ["ignore-case"], .nothing⟩,
   ⟨some 'j', [], .value⟩, ⟨some '1', [], .value⟩, ⟨some '2', [], .value⟩, ⟨some 'o', [], .value⟩,
   ⟨some 't', [], .value⟩, ⟨none, ["check-order"], .nothing⟩, ⟨none, ["nocheck-order"], .nothing⟩]

/-- Reads the number of a field, which is counted from one. -/
def fieldNumber (text : Bytes) : Printer Nat :=
  match readNat? text with
  | some (n + 1) => return n
  | _ => die 1 (ascii "invalid field number: " ++ quoted text)

/-- Reads one field of a format. -/
def formatField (text : Bytes) : Printer JoinField :=
  match text.map charOf with
  | ['0'] => return .common
  | '1' :: '.' :: _ => do return .of false (← fieldNumber (text.drop 2))
  | '2' :: '.' :: _ => do return .of true (← fieldNumber (text.drop 2))
  | '0' :: _ | '1' :: _ | '2' :: _ => die 1 (ascii "invalid field specifier: " ++ quoted text)
  | _ => die 1 (ascii "invalid file number in field spec: " ++ quoted text)

/-- Applies an option of `join`. -/
def joinOption (o : JoinOptions) (g : Given) : Printer JoinOptions := do
  let text := g.value.getD []
  match g.key with
  | "a" | "v" =>
    let o := if g.key == "v" then { o with pairs := false } else o
    match readNat? text with
    | some 1 => return { o with alone1 := true }
    | some 2 => return { o with alone2 := true }
    | _ => die 1 (ascii "invalid field number: " ++ quoted text)
  | "e" => return { o with filler := text }
  | "i" => return { o with ignoresCase := true }
  | "j" =>
    let n ← fieldNumber text
    return { o with key1 := n, key2 := n }
  | "1" => return { o with key1 := ← fieldNumber text }
  | "2" => return { o with key2 := ← fieldNumber text }
  | "o" =>
    if text = ascii "auto" then return o
    else
      let fields ← ((text.splitOnP fun b => b == 44 || isBlank b).filter (!·.isEmpty)).mapM formatField
      return { o with format := some (o.format.getD [] ++ fields) }
  | "t" =>
    match text with
    | [] => return { o with separator := some 10 }
    | [b] => return { o with separator := some b }
    | _ =>
      if text = ascii "\\0" then return { o with separator := some 0 }
      else die 1 (ascii "multi-character tab " ++ quoted text)
  | "check-order" => return { o with checks := some true }
  | _ => return { o with checks := some false }

/-- Reads an input of `join`. -/
def joinInput (o : JoinOptions) (path : Bytes) : Printer JoinInput := do
  match ← readOperand path with
  | .error e => die 1 (fileName path ++ ascii ": " ++ e.libraryText.encode)
  | .ok bytes => return { name := path, left := (linesOf bytes).map fun line => ⟨line, o.fieldsOf line⟩ }

def join : Utility := printing 1 fun args => do
  let a := Arguments.read joinRows args
  let o ← a.given.foldlM joinOption {}
  a.check 1
  match a.operands with
  | [] => misuse 1 (ascii "missing operand")
  | [path] => misuse 1 (ascii "missing operand after " ++ quoted path)
  | _ :: _ :: extra :: _ => misuse 1 (ascii "extra operand " ++ quoted extra)
  | [first, second] =>
    if first = ascii "-" && second = ascii "-" then die 1 (ascii "both files cannot be standard input")
    let x ← joinInput o first
    let y ← joinInput o second
    let unpaired := x.left.isEmpty != y.left.isEmpty
    let (x, y) ← joinInputs o (x.left.length + y.left.length + 1) unpaired x y
    if x.warned || y.warned then die 1 (ascii "input is not in sorted order")
    return 0

end JobShell.Utility
