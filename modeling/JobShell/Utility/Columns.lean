import JobShell.Utility.Numeral
import JobShell.Utility.Options

/-! # Parts of lines

`cut` takes parts out of lines, `paste` puts lines side by side, `fold` breaks them, and `expand` writes
blanks for their tabs. -/

namespace JobShell.Utility

open Printer

/-! ### Taking parts out -/

/-- Positions from the first to the last, counted from one; without a last one they go on to the end. -/
structure Span where
  first : Nat
  last : Option Nat
deriving DecidableEq, Repr

/-- What is selected. -/
inductive Cut
  | bytes
  | fields
deriving DecidableEq, Repr

/-- What is wrong with a list of positions. -/
def zeroFault : Cut → Bytes
  | .bytes => ascii "byte/character positions are numbered from 1"
  | .fields => ascii "fields are numbered from 1"

/-- Reads one position of a list. -/
def readPosition (kind : Cut) (text : Bytes) : Except Bytes Nat :=
  let (_, count, rest) := takeDigits 10 text 0 0
  if !rest.isEmpty || count = 0 then
    .error (ascii (match kind with
      | .bytes => "invalid byte/character position "
      | .fields => "invalid field value ") ++ quoted rest)
  else
    match readNat? text with
    | some (n + 1) =>
      if maxWord ≤ n + 1 then
        .error (ascii (match kind with
          | .bytes => "byte/character offset "
          | .fields => "field number ") ++ quoted text ++ ascii " is too large")
      else .ok (n + 1)
    | _ => .error (zeroFault kind)

/-- Reads one span of a list. -/
def readSpan (kind : Cut) (text : Bytes) : Except Bytes Span := do
  if text.contains 45 then
    let front := text.takeWhile (· != 45)
    let behind := (text.dropWhile (· != 45)).drop 1
    if front.isEmpty && behind.isEmpty then throw (ascii "invalid range with no endpoint: -")
    if behind.contains 45 then
      throw (ascii (match kind with
        | .bytes => "invalid byte or character range"
        | .fields => "invalid field range"))
    let first ← if front.isEmpty then pure 1 else readPosition kind front
    if behind.isEmpty then return ⟨first, none⟩
    let last ← readPosition kind behind
    if last < first then throw (ascii "invalid decreasing range")
    return ⟨first, some last⟩
  else if text.isEmpty then throw (zeroFault kind)
  else
    let n ← readPosition kind text
    return ⟨n, some n⟩

/-- Reads a list of spans, which are separated by commas or blanks. -/
def readSpans (kind : Cut) (text : Bytes) : Except Bytes (List Span) :=
  (text.splitOnP fun b => b == 44 || isBlank b).mapM (readSpan kind)

/-- Whether a position is in one of the spans. -/
def selects (spans : List Span) (n : Nat) : Bool :=
  spans.any fun s => s.first ≤ n && s.last.all (n ≤ ·)

/-- How `cut` works. -/
structure CutOptions where
  kind : Cut
  spans : List Span
  inverse : Bool
  delimiter : UInt8
  /-- What stands between the parts that are written. -/
  joint : Option Bytes
  /-- Lines without a delimiter are left out. -/
  skips : Bool
deriving Repr

/-- Whether a position begins a span; spans that meet or overlap are one. -/
def CutOptions.begins (o : CutOptions) (n : Nat) : Bool :=
  if o.inverse then 1 < n && selects o.spans (n - 1) else o.spans.any (·.first == n)

/-- The selected bytes of a line. -/
def cutBytes (o : CutOptions) (line : Bytes) : Bytes :=
  let chosen := (line.zip (List.range' 1 line.length)).filter fun p => selects o.spans p.2 != o.inverse
  match o.joint with
  | none => chosen.map (·.1)
  | some joint =>
    (chosen.foldl (fun (out, last) p =>
      let joined := if 0 < last && (p.2 != last + 1 || o.begins p.2) then joint else []
      (p.1 :: joined.reverse ++ out, p.2)) (([] : Bytes), 0)).1.reverse

/-- The selected fields of a line, if the line is to be written. -/
def cutFields (o : CutOptions) (line : Bytes) : Option Bytes :=
  if !line.contains o.delimiter then if o.skips then none else some line
  else
    let fields := line.splitOnP (· == o.delimiter)
    let chosen := (fields.zip (List.range' 1 fields.length)).filter fun p => selects o.spans p.2 != o.inverse
    some ((o.joint.getD [o.delimiter]).intercalate (chosen.map (·.1)))

def cutRows : List OptionRow :=
  [⟨some 'b', ["bytes"], .value⟩, ⟨some 'c', ["characters"], .value⟩, ⟨some 'd', ["delimiter"], .value⟩,
   ⟨some 'f', ["fields"], .value⟩, ⟨some 'n', [], .nothing⟩, ⟨some 's', ["only-delimited"], .nothing⟩,
   ⟨none, ["complement"], .nothing⟩, ⟨none, ["output-delimiter"], .value⟩,
   ⟨some 'z', ["zero-terminated"], .nothing⟩]

/-- Reads the options of `cut`. -/
def cutOptions (a : Arguments) : Printer CutOptions := do
  let lists := a.given.filter fun g => ["b", "c", "f"].contains g.key
  for g in a.given do
    if g.key == "d" && 1 < (g.value.getD []).length then
      misuse 1 (ascii "the delimiter must be a single character")
  a.check 1
  match lists with
  | [] => misuse 1 (ascii "you must specify a list of bytes, characters, or fields")
  | _ :: _ :: _ => misuse 1 (ascii "only one list may be specified")
  | [list] =>
    let kind := if list.key == "f" then Cut.fields else Cut.bytes
    if kind = .bytes && a.has "d" then
      misuse 1 (ascii "an input delimiter may be specified only when operating on fields")
    if kind = .bytes && a.has "s" then
      misuse 1 (ascii "suppressing non-delimited lines makes sense\n\tonly when operating on fields")
    match readSpans kind (list.value.getD []) with
    | .error fault => misuse 1 fault
    | .ok spans =>
      let delimiter := match a.value? "d" with
        | none => 9
        | some d => d.headD 0
      let joint := a.value? "output-delimiter"
      return ⟨kind, spans, a.has "complement", delimiter, joint, a.has "s"⟩

def cut : Utility := printing 1 fun args => do
  let a := Arguments.read cutRows args
  let o ← cutOptions a
  let ending : UInt8 := if a.has "z" then 0 else 10
  let well ← all (operandsOr a.operands) fun path => do
    match ← readOperand path with
    | .error e =>
      complainOf (fileName path) e
      return false
    | .ok bytes =>
      (piecesOf ending bytes).forM fun line =>
        match o.kind with
        | .bytes => say (cutBytes o line ++ [ending])
        | .fields =>
          match cutFields o line with
          | some shown => say (shown ++ [ending])
          | none => return
      return true
  return codeOf well

/-! ### Side by side -/

/-- Reads the delimiters of `paste`; an empty one is none. -/
def readDelimiters : Bytes → Option (List (Option UInt8))
  | [] => some []
  | [92] => none
  | 92 :: b :: rest =>
    let d := match charOf b with
      | '0' => none
      | 'b' => some 8
      | 'f' => some 12
      | 'n' => some 10
      | 'r' => some 13
      | 't' => some 9
      | 'v' => some 11
      | _ => some b
    (readDelimiters rest).map (d :: ·)
  | b :: rest => (readDelimiters rest).map (some b :: ·)

/-- Joins lines with delimiters, which are used in turn. -/
def pasteLine (delimiters all : List (Option UInt8)) : List Bytes → Bytes
  | [] => []
  | [last] => last
  | line :: rest =>
    match delimiters with
    | d :: more => line ++ d.toList ++ pasteLine (if more.isEmpty then all else more) all rest
    | [] => line ++ pasteLine all all rest

/-- The lines of several inputs side by side, as long as one of them has lines. -/
def sideBySide : Nat → List (List Bytes) → List (List Bytes)
  | 0, _ => []
  | fuel + 1, inputs =>
    if inputs.all (·.isEmpty) then []
    else inputs.map (·.headD []) :: sideBySide fuel (inputs.map (·.tail))

def pasteRows : List OptionRow :=
  [⟨some 'd', ["delimiters"], .value⟩, ⟨some 's', ["serial"], .nothing⟩,
   ⟨some 'z', ["zero-terminated"], .nothing⟩]

/-- Gives each of several readers of one input its lines in turn. -/
def deal (count : Nat) (lines : List Bytes) : List (List Bytes) :=
  (List.range count).map fun i =>
    ((lines.zip (List.range lines.length)).filter fun p => p.2 % count == i).map (·.1)

/-- Reads the inputs that are to stand side by side; the standard input is dealt out. -/
def pasteInputs (ending : UInt8) (operands : List Bytes) : Printer (List (List Bytes)) := do
  let isStandard (path : Bytes) := path == ascii "-"
  let standard ← if operands.any isStandard then readAll 0 else pure (.ok [])
  let files ← operands.mapM fun path => do
    if isStandard path then return []
    else
      match ← readOperand path with
      | .ok bytes => return piecesOf ending bytes
      | .error e => die 1 (fileName path ++ ascii ": " ++ e.libraryText.encode)
  let dealt := deal (operands.countP isStandard) (piecesOf ending (standard.toOption.getD []))
  return (operands.zip files).foldl (fun (done, dealt) (path, lines) =>
    if isStandard path then (done ++ [dealt.headD []], dealt.tail) else (done ++ [lines], dealt))
    (([] : List (List Bytes)), dealt) |>.1

def paste : Utility := printing 1 fun args => do
  let a := Arguments.read pasteRows args
  a.check 1
  let ending : UInt8 := if a.has "z" then 0 else 10
  let list := (a.value? "d").getD [9]
  match readDelimiters (if list.isEmpty then ascii "\\0" else list) with
  | none => die 1 (ascii "delimiter list ends with an unescaped backslash: " ++ list)
  | some delimiters =>
    if a.has "s" then
      let well ← all (operandsOr a.operands) fun path => do
        match ← readOperand path with
        | .error e =>
          complainOf (fileName path) e
          return false
        | .ok bytes =>
          say (pasteLine delimiters delimiters (piecesOf ending bytes) ++ [ending])
          return true
      return codeOf well
    else
      let inputs ← pasteInputs ending (operandsOr a.operands)
      let longest := inputs.foldl (fun n lines => max n lines.length) 0
      (sideBySide longest inputs).forM fun lines => say (pasteLine delimiters delimiters lines ++ [ending])
      return 0

/-! ### Breaking lines -/

/-- The column behind a byte. -/
def columnAfter (bytes : Bool) (column : Nat) (b : UInt8) : Nat :=
  if bytes then column + 1
  else
    match b.toNat with
    | 8 => column - 1
    | 13 => 0
    | 9 => column + 8 - column % 8
    | _ => column + 1

/-- The column behind several bytes. -/
def columnAfterAll (bytes : Bool) (line : Bytes) : Nat :=
  line.foldl (columnAfter bytes) 0

/-- Breaks a line; `current` is the beginning of a piece, backwards. -/
def foldLine (bytes spaces : Bool) (width : Nat) : Nat → Bytes → Bytes → List Bytes
  | 0, current, rest => [current.reverse ++ rest]
  | _, current, [] => if current.isEmpty then [] else [current.reverse]
  | fuel + 1, current, b :: rest =>
    let column := columnAfter bytes (columnAfterAll bytes current.reverse) b
    if width < column && !current.isEmpty then
      let behind := current.takeWhile (!isBlank ·)
      let front := current.dropWhile (!isBlank ·)
      if spaces && !front.isEmpty then
        front.reverse :: foldLine bytes spaces width fuel behind (b :: rest)
      else current.reverse :: foldLine bytes spaces width fuel [] (b :: rest)
    else foldLine bytes spaces width fuel (b :: current) rest

def foldRows : List OptionRow :=
  [⟨some 'b', ["bytes"], .nothing⟩, ⟨some 's', ["spaces"], .nothing⟩, ⟨some 'w', ["width"], .value⟩] ++
    letters "0123456789"

def fold : Utility := printing 1 fun args => do
  let numbered (arg : Bytes) : Bool := arg.head? == some 45 && (arg.drop 1).head?.any isDigit
  let args := args.map fun arg => if numbered arg then ascii "-w" ++ arg.drop 1 else arg
  let a := Arguments.read foldRows args
  a.check 1
  let text := (a.value? "w").getD (ascii "80")
  match readNat? text with
  | some (n + 1) =>
    let well ← all (operandsOr a.operands) fun path => do
      match ← readOperand path with
      | .error e =>
        complainOf (fileName path) e
        return false
      | .ok bytes =>
        (fullPieces 10 bytes).forM fun full => do
          let line := full.filter (· != 10)
          let pieces := foldLine (a.has "b") (a.has "s") (n + 1) (2 * line.length + 2) [] line
          say ([10].intercalate pieces ++ (if full.getLast? = some 10 then [10] else []))
        return true
    return codeOf well
  | some 0 => die 1 (ascii "invalid number of columns: " ++ quoted text ++
      ascii ": Numerical result out of range")
  | none => die 1 (ascii "invalid number of columns: " ++ quoted text)

/-! ### Tabs -/

/-- The column of the next tab stop: one of a list, or behind it the next column. A single stop is repeated.
-/
def nextStop (stops : List Nat) (column : Nat) : Nat :=
  match stops with
  | [n] => column + max 1 n - column % max 1 n
  | _ => (stops.find? fun n => column < n).getD (column + 1)

/-- A line with blanks for its tabs; with `initial` only for those in front of everything else. -/
def expandLine (stops : List Nat) (initial : Bool) (column : Nat) (active : Bool) : Bytes → Bytes
  | [] => []
  | b :: rest =>
    if !active then b :: expandLine stops initial column active rest
    else if b = 9 then
      let next := nextStop stops column
      List.replicate (next - column) 32 ++ expandLine stops initial next active rest
    else
      let column := if b = 8 then column - 1 else column + 1
      b :: expandLine stops initial column (!initial || isBlank b) rest

/-- Reads tab stops, which have to ascend. -/
def readStops (text : Bytes) : Except Bytes (List Nat) := do
  let stops ← ((text.splitOnP fun b => b == 44 || isBlank b).filter (!·.isEmpty)).mapM fun part =>
    match readNat? part with
    | some n => .ok n
    | none => .error (ascii "tab size contains invalid character(s): " ++ quoted (part.dropWhile isDigit))
  if stops.contains 0 then .error (ascii "tab size cannot be 0")
  else if (stops.zip stops.tail).any fun p => p.2 ≤ p.1 then .error (ascii "tab sizes must be ascending")
  else .ok (if stops.isEmpty then [8] else stops)

def expand : Utility := printing 1 fun args => do
  let numbered (arg : Bytes) : Bool := arg.head? == some 45 && (arg.drop 1).head?.any isDigit
  let args := args.map fun arg => if numbered arg then ascii "-t" ++ arg.drop 1 else arg
  let a := Arguments.read [⟨some 'i', ["initial"], .nothing⟩, ⟨some 't', ["tabs"], .value⟩] args
  a.check 1
  match readStops ((a.value? "t").getD []) with
  | .error fault => die 1 fault
  | .ok stops =>
    let well ← all (operandsOr a.operands) fun path => do
      match ← readOperand path with
      | .error e =>
        complainOf (fileName path) e
        return false
      | .ok bytes =>
        (fullPieces 10 bytes).forM fun line => say (expandLine stops (a.has "i") 0 true line)
        return true
    return codeOf well

end JobShell.Utility
