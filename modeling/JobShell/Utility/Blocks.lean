import JobShell.Utility.Numeral
import JobShell.Utility.Options

/-! # Blocks of bytes

`split` cuts its input into files, and `dd` copies it block by block. -/

namespace JobShell.Utility

open Printer

/-! ### Cutting into files -/

/-- How the names of the pieces end: in so many letters or digits, in more of them when they are used up if
`grows`, and in a fixed text behind them. -/
structure PieceNames where
  front : Bytes
  alphabet : List UInt8
  length : Nat
  grows : Bool
  ending : Bytes
deriving Repr

namespace PieceNames

/-- A number in the digits of an alphabet. -/
def spelled (alphabet : List UInt8) : Nat → Nat → Bytes
  | 0, _ => []
  | places + 1, n =>
    let base := max 1 alphabet.length
    spelled alphabet places (n / base) ++ (alphabet[n % base]?).toList

/-- The ending of a piece. When the endings of one length are used up but for those that begin with the last
digit, the following ones begin with it and are two longer. -/
def suffix? (x : PieceNames) : Nat → Nat → Nat → Option Bytes
  | 0, _, _ => none
  | fuel + 1, places, n =>
    let base := x.alphabet.length
    if !x.grows then if n < power base places then some (spelled x.alphabet places n) else none
    else
      let first := (base - 1) * power base (places - 1)
      if n < first then some (spelled x.alphabet places n)
      else (suffix? x fuel (places + 1) (n - first)).map fun text => (x.alphabet.getLast?).toList ++ text

/-- The name of a piece. -/
def name? (x : PieceNames) (n : Nat) : Option Bytes :=
  (x.suffix? 20 x.length n).map fun text => x.front ++ text ++ x.ending

end PieceNames

/-- The pieces of an input with so many bytes. -/
def bytePieces (size : Nat) : Nat → Bytes → List Bytes
  | 0, _ => []
  | fuel + 1, bytes =>
    if bytes.isEmpty then [] else bytes.take size :: bytePieces size fuel (bytes.drop size)

/-- Puts lines together, so many at a time. -/
def linePieces (count : Nat) : Nat → List Bytes → List Bytes
  | 0, _ => []
  | fuel + 1, lines =>
    if lines.isEmpty then [] else (lines.take count).flatten :: linePieces count fuel (lines.drop count)

def splitRows : List OptionRow :=
  [⟨some 'a', ["suffix-length"], .value⟩, ⟨none, ["additional-suffix"], .value⟩,
   ⟨some 'b', ["bytes"], .value⟩,
   ⟨some 'd', [], .nothing⟩, ⟨none, ["numeric-suffixes"], .maybe⟩, ⟨some 'x', [], .nothing⟩,
   ⟨none, ["hex-suffixes"], .maybe⟩, ⟨some 'l', ["lines"], .value⟩, ⟨some 'u', ["unbuffered"], .nothing⟩,
   ⟨some 'e', ["elide-empty-files"], .nothing⟩, ⟨none, ["verbose"], .nothing⟩] ++ letters "0123456789"

/-- The count that an option of `split` has. -/
def splitCount (noun : String) (text : Bytes) : Printer Nat :=
  match readSize "bEGKkMmPTYZ0" text with
  | .ok (n + 1) => return n + 1
  | .error .tooLarge =>
    die 1 (ascii "invalid number of " ++ ascii noun ++ ascii ": " ++ quoted text ++
      ascii ": Value too large for defined data type")
  | _ => die 1 (ascii "invalid number of " ++ ascii noun ++ ascii ": " ++ quoted text)

/-- Writes pieces to files. -/
def writePieces (names : PieceNames) (verbose : Bool) (pieces : List Bytes) : Printer Unit :=
  (pieces.zipIdx).forM fun (piece, n) => do
    match names.name? n with
    | none => die 1 (ascii "output file suffixes exhausted")
    | some name =>
      if verbose then say (ascii "creating file " ++ shellQuoted name ++ [10])
      match ← perform (.openFile name (.replacing 0o666)) with
      | .error e => die 1 (fileName name ++ ascii ": " ++ e.libraryText.encode)
      | .ok d =>
        match ← writeAll d piece with
        | .error e => die 1 (fileName name ++ ascii ": " ++ e.libraryText.encode)
        | .ok _ => closeOperand d

def split : Utility := printing 1 fun args => do
  let isCount (arg : Bytes) : Bool := arg.head? == some 45 && 1 < arg.length && arg.tail.all isDigit
  let args := args.map fun arg => if isCount arg then ascii "-l" ++ arg.tail else arg
  let a := Arguments.read splitRows args
  let ways := a.given.filter fun g => g.key == "l" || g.key == "b"
  if ways.length > 1 then misuse 1 (ascii "cannot split in more than one way")
  let count ← match ways.head? with
    | some ⟨"b", some text⟩ => splitCount "bytes" text
    | some ⟨_, some text⟩ => splitCount "lines" text
    | _ => pure 1000
  let asked ← match a.value? "a" with
    | none => pure none
    | some text =>
      match readNat? text with
      | some n => pure (if n = 0 then none else some n)
      | none => die 1 (ascii "invalid suffix length: " ++ quoted text)
  let ending := (a.value? "additional-suffix").getD []
  if ending.contains 47 then
    misuse 1 (ascii "invalid suffix " ++ quoted ending ++ ascii ", contains directory separator")
  a.check 1
  let alphabet := match a.last? ["d", "numeric-suffixes", "x", "hex-suffixes"] with
    | none => ascii "abcdefghijklmnopqrstuvwxyz"
    | some "d" | some "numeric-suffixes" => ascii "0123456789"
    | some _ => ascii "0123456789abcdef"
  match a.operands with
  | _ :: _ :: extra :: _ => misuse 1 (ascii "extra operand " ++ quoted extra)
  | operands =>
    let path := operands.headD (ascii "-")
    match ← openOperand path with
    | .error e => die 1 (ascii "cannot open " ++ shellQuoted path ++ ascii " for reading: " ++
        e.libraryText.encode)
    | .ok d =>
      match ← readAll d with
      | .error e => die 1 (fileName path ++ ascii ": " ++ e.libraryText.encode)
      | .ok bytes =>
        let names : PieceNames :=
          { front := operands.tail.headD (ascii "x"), alphabet, length := asked.getD 2
            grows := asked.isNone, ending }
        let isBytes := ways.any (·.key == "b")
        let pieces :=
          if isBytes then bytePieces count (bytes.length + 1) bytes
          else
            let lines := fullPieces 10 bytes
            linePieces count (lines.length + 1) lines
        writePieces names (a.has "verbose") pieces
        return 0

/-! ### Copying blocks -/

/-- How `dd` works. -/
structure BlockOptions where
  input : Option Bytes := none
  output : Option Bytes := none
  inputSize : Nat := 512
  outputSize : Nat := 512
  /-- Blocks are written as they are read. -/
  same : Bool := false
  count : Option Nat := none
  skip : Nat := 0
  seek : Nat := 0
  conversions : List String := []
  status : String := ""
deriving Repr

namespace BlockOptions

/-- The factors of a product, whose signs are the letter x. -/
def readProduct? (text : Bytes) : Option Nat :=
  let factors := (text.splitOnP (· == 120)).map fun part =>
    if part.head?.any isDigit then (readSize "bcwEGKkMPTYZ0" part).toOption else none
  if factors.all (·.isSome) then some ((factors.filterMap id).foldl (· * ·) 1) else none

/-- The conversions that are known; some of them make no difference here. -/
def knownConversions : List String :=
  ["ucase", "lcase", "notrunc", "sync", "excl", "noerror", "fsync", "fdatasync", "nocreat"]

/-- Reads one operand. -/
def read (o : BlockOptions) (arg : Bytes) : Printer BlockOptions := do
  let key := arg.takeWhile (· != 61)
  let value := (arg.dropWhile (· != 61)).drop 1
  let unknown {α : Type} : Printer α := misuse 1 (ascii "unrecognized operand " ++ quoted arg)
  let number (least : Nat) : Printer Nat :=
    match readProduct? value with
    | some n => if least ≤ n then return n else die 1 (ascii "invalid number: " ++ quoted value)
    | none => die 1 (ascii "invalid number: " ++ quoted value)
  let isKey (name : String) : Bool := key == ascii name
  if !arg.contains 61 then unknown
  else if isKey "if" then return { o with input := some value }
  else if isKey "of" then return { o with output := some value }
  else if isKey "bs" then
    let n ← number 1
    return { o with inputSize := n, outputSize := n, same := true }
  else if isKey "ibs" then return { o with inputSize := ← number 1 }
  else if isKey "obs" then return { o with outputSize := ← number 1 }
  else if isKey "cbs" then
    let _ ← number 1
    return o
  else if isKey "count" then return { o with count := some (← number 0) }
  else if isKey "skip" || isKey "iseek" then return { o with skip := ← number 0 }
  else if isKey "seek" || isKey "oseek" then return { o with seek := ← number 0 }
  else if isKey "conv" then
    let names := value.splitOnP (· == 44)
    match names.find? fun name => !knownConversions.any fun k => ascii k == name with
    | some name => misuse 1 (ascii "invalid conversion: " ++ quoted name)
    | none =>
      return { o with conversions := o.conversions ++
        knownConversions.filter fun k => names.contains (ascii k) }
  else if isKey "status" then
    match ["none", "noxfer", "progress"].find? fun s => ascii s == value with
    | some status => return { o with status }
    | none => misuse 1 (ascii "invalid status level: " ++ quoted value)
  else if isKey "iflag" || isKey "oflag" then return o
  else unknown

/-- A block as the conversions change it. -/
def convert (o : BlockOptions) (block : Bytes) : Bytes :=
  let block := if o.conversions.contains "ucase" then block.map toUpper else block
  let block := if o.conversions.contains "lcase" then block.map toLower else block
  if o.conversions.contains "sync" then block ++ List.replicate (o.inputSize - block.length) 0 else block

end BlockOptions

/-- How many blocks were read and written: whole ones, and shorter ones. -/
structure BlockCounts where
  readWhole : Nat := 0
  readPart : Nat := 0
  wroteWhole : Nat := 0
  wrotePart : Nat := 0
  bytes : Nat := 0

/-- Writes a block of `dd`. -/
def writeBlock (o : BlockOptions) (c : BlockCounts) (block : Bytes) : Printer BlockCounts := do
  match ← writeAll 1 block with
  | .error e => die 1 (ascii "error writing " ++ shellQuoted (o.output.getD (ascii "standard output")) ++
      ascii ": " ++ e.libraryText.encode)
  | .ok _ =>
    let c := { c with bytes := c.bytes + block.length }
    return if block.length = o.outputSize then { c with wroteWhole := c.wroteWhole + 1 }
      else { c with wrotePart := c.wrotePart + 1 }

/-- Writes the whole blocks of what was read, and answers what is left. -/
def writeWhole (o : BlockOptions) : Nat → BlockCounts → Bytes → Printer (BlockCounts × Bytes)
  | 0, c, bytes => return (c, bytes)
  | fuel + 1, c, bytes => do
    if bytes.length < o.outputSize then return (c, bytes)
    else
      let c ← writeBlock o c (bytes.take o.outputSize)
      writeWhole o fuel c (bytes.drop o.outputSize)

/-- Makes a file the standard input or output of `dd`. -/
def becomeStream (target : Descriptor) (path : Bytes) (access : Access) : Printer Unit := do
  match ← perform (.openFile path access) with
  | .error e => die 1 (ascii "failed to open " ++ shellQuoted path ++ ascii ": " ++ e.libraryText.encode)
  | .ok d =>
    if d != target then
      let _ ← perform (.duplicate d target)
      closeOperand d

/-- Goes past the blocks that are not to be copied; the answer says whether there were enough. -/
def skipBlocks (o : BlockOptions) : Printer Bool := do
  if o.skip = 0 then return true
  else
    let distance := o.skip * o.inputSize
    match ← serve (.describe 0) with
    | .ok info =>
      if info.kind = .file then
        let _ ← serve (.seek 0 (info.offset + distance))
        return info.offset + distance ≤ info.size
      else
        repeated (fun (left : Nat) => do
          if left = 0 then return .inr true
          else
            match ← perform (.read 0 (min left o.inputSize)) with
            | .ok (b :: rest) => return .inl (left - (b :: rest).length)
            | _ => return .inr false) distance
    | .error _ => return false

/-- Copies block after block. -/
def copyBlocks (o : BlockOptions) : Printer (BlockCounts × Bool) := do
  let input := shellQuoted (o.input.getD (ascii "standard input"))
  let (c, rest, well) ← repeated (fun ((c, rest, read) : BlockCounts × Bytes × Nat) => do
    if o.count.any fun count => count ≤ read then return .inr (c, rest, true)
    else
      match ← perform (.read 0 o.inputSize) with
      | .error e =>
        complainOf (ascii "error reading " ++ input) e
        return .inr (c, rest, false)
      | .ok [] => return .inr (c, rest, true)
      | .ok block =>
        let c := if block.length = o.inputSize then { c with readWhole := c.readWhole + 1 }
          else { c with readPart := c.readPart + 1 }
        let block := o.convert block
        if o.same then
          let c ← writeBlock o c block
          return .inl (c, [], read + 1)
        else
          let bytes := rest ++ block
          let (c, rest) ← writeWhole o (bytes.length + 1) c bytes
          return .inl (c, rest, read + 1)) ({}, [], 0)
  let c ← if rest.isEmpty then pure c else writeBlock o c rest
  return (c, well)

def dd : Utility := printing 1 fun args => do
  let a := Arguments.read [] args
  a.check 1
  let o ← a.operands.foldlM BlockOptions.read {}
  if o.conversions.contains "ucase" && o.conversions.contains "lcase" then
    die 1 (ascii "cannot combine lcase and ucase")
  let o := if o.conversions.contains "sync" then o
    else { o with same := o.same && o.inputSize = o.outputSize }
  if let some path := o.input then becomeStream 0 path .reading
  if let some path := o.output then
    let keeps := o.conversions.contains "notrunc" || o.seek != 0
    let access : Access :=
      { reads := false, writes := true, empties := !keeps, exclusive := o.conversions.contains "excl"
        creates := if o.conversions.contains "nocreat" then none else some 0o666 }
    becomeStream 1 path access
    if o.seek != 0 then
      if !o.conversions.contains "notrunc" then
        let _ ← serve (.resize 1 (o.seek * o.outputSize))
      let _ ← serve (.seek 1 (o.seek * o.outputSize))
  let enough ← skipBlocks o
  if !enough && o.status != "none" then
    complain (fileName (o.input.getD (ascii "standard input")) ++ ascii ": cannot skip to specified offset")
  let (c, well) ← if enough then copyBlocks o else pure ({}, true)
  if o.status != "none" then
    let plus (whole part : Nat) : Bytes := digits whole ++ ascii "+" ++ digits part
    lift (warn (plus c.readWhole c.readPart ++ ascii " records in\n" ++
      plus c.wroteWhole c.wrotePart ++ ascii " records out\n"))
    if o.status != "noxfer" then
      let noun := if c.bytes = 1 then ascii " byte" else ascii " bytes"
      lift (warn (digits c.bytes ++ noun ++ ascii " copied, 0.0001 s, 0.0 kB/s\n"))
  return codeOf well

end JobShell.Utility
