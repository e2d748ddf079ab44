import JobShell.Utility.Numeral
import JobShell.Utility.Options

/-! # Dumps

`od` shows the bytes of its inputs in blocks: each block on a line for every format, behind the address of its
first byte. Blocks that repeat the one before are shown as a star. -/

namespace JobShell.Utility

open Printer

/-- How a datum is shown. -/
inductive DumpKind
  | named
  | char
  | signed
  | unsigned
  | octal
  | hexadecimal
deriving DecidableEq, Repr

/-- A format: what a datum looks like and how many bytes it has; `visible` says that the block is shown as
text behind it. -/
structure DumpFormat where
  kind : DumpKind
  size : Nat
  visible : Bool := false
deriving DecidableEq, Repr

namespace DumpFormat

/-- How many digits the greatest number of so many bytes has. -/
def unsignedWidth (size : Nat) : Nat :=
  (digits (power 256 size - 1)).length

/-- How wide a datum is shown, without the blank in front of it. -/
def width (f : DumpFormat) : Nat :=
  match f.kind with
  | .named | .char => 3
  | .signed => (digits (power 256 f.size / 2)).length + 1
  | .unsigned => unsignedWidth f.size
  | .octal => (8 * f.size + 2) / 3
  | .hexadecimal => 2 * f.size

/-- The number of a datum, whose first byte counts least. -/
def number (datum : Bytes) : Nat :=
  datum.foldr (fun b n => n * 256 + b.toNat) 0

/-- The names of the bytes that are no characters. -/
def names : List String :=
  ["nul", "soh", "stx", "etx", "eot", "enq", "ack", "bel", "bs", "ht", "nl", "vt", "ff", "cr", "so", "si",
   "dle",
   "dc1", "dc2", "dc3", "dc4", "nak", "syn", "etb", "can", "em", "sub", "esc", "fs", "gs", "rs", "us", "sp"]

/-- A datum as it is shown. -/
def shown (f : DumpFormat) (datum : Bytes) : Bytes :=
  let n := number datum
  match f.kind with
  | .named =>
    let n := n % 128
    if n = 127 then ascii "del"
    else
      match names[n]? with
      | some name => ascii name
      | none => [UInt8.ofNat n]
  | .char =>
    let b := UInt8.ofNat n
    if b = 0 then ascii "\\0"
    else if isPrintable b then [b]
    else
      match (if b = 92 then none else (controlLetter? b)) with
      | some c => [92, byte c]
      | none => padStart 48 3 (digitsIn 8 n)
  | .signed =>
    let limit := power 256 f.size
    if n < limit / 2 then digits n else 45 :: digits (limit - n)
  | .unsigned => digits n
  | .octal => padStart 48 f.width (digitsIn 8 n)
  | .hexadecimal => padStart 48 f.width (digitsIn 16 n)

/-- The data of a block. -/
def data (size : Nat) : Nat → Bytes → List Bytes
  | 0, _ => []
  | fuel + 1, block => if block.isEmpty then [] else block.take size :: data size fuel (block.drop size)

/-- How many columns a format needs for a whole block. -/
def columns (f : DumpFormat) (blockSize : Nat) : Nat :=
  (f.width + 1) * (blockSize / f.size)

/-- A block in a format. The data are spread so that every format needs as many columns as the widest one. -/
def line (f : DumpFormat) (blockSize columns : Nat) (block : Bytes) : Bytes :=
  let fields := blockSize / f.size
  let pad := columns - f.width * fields
  let filled := block ++ List.replicate ((f.size - block.length % f.size) % f.size) 0
  let parts := data f.size (filled.length + 1) filled
  let text := (parts.zipIdx).flatMap fun (datum, i) =>
    let gap := pad * (fields - i) / fields - pad * (fields - i - 1) / fields
    padStart 32 (f.width + gap) (f.shown datum)
  if f.visible then
    let rest := (List.range (fields - parts.length)).foldl (fun n i =>
      let i := i + parts.length
      n + f.width + (pad * (fields - i) / fields - pad * (fields - i - 1) / fields)) 0
    text ++ List.replicate rest 32 ++ ascii "  >" ++
      block.map (fun b => if isPrintable b then b else 46) ++ ascii "<"
  else text

/-- Reads the size of a type: a letter or a number; without one it is that of a plain integer. -/
def takeSize (text : Bytes) : Except Nat (Nat × Bytes) :=
  match text with
  | 67 :: rest => .ok (1, rest)
  | 83 :: rest => .ok (2, rest)
  | 73 :: rest => .ok (4, rest)
  | 76 :: rest => .ok (8, rest)
  | _ =>
    let (n, count, rest) := takeDigits 10 text 0 0
    if count = 0 then .ok (4, rest)
    else if [1, 2, 4, 8].contains n then .ok (n, rest)
    else .error n

/-- The kind of format that a letter stands for. -/
def kindOf? (b : UInt8) : Option DumpKind :=
  match charOf b with
  | 'a' => some .named
  | 'c' => some .char
  | 'd' => some .signed
  | 'u' => some .unsigned
  | 'o' => some .octal
  | 'x' => some .hexadecimal
  | _ => none

/-- Reads the formats of one text, which may have several of them; `whole` is all of it. -/
def read (whole : Bytes) : Nat → Bytes → Except Bytes (List DumpFormat)
  | 0, _ => .ok []
  | _, [] => .ok []
  | fuel + 1, b :: rest =>
    match kindOf? b with
    | none => .error (ascii "invalid character '" ++ b :: ascii "' in type string " ++ quoted whole)
    | some kind =>
      match (if kind = .named || kind = .char then .ok (1, rest) else takeSize rest) with
      | .error n =>
        .error (ascii "invalid type string " ++ quoted whole ++ ascii ";\nthis system doesn't provide a " ++
          digits n ++ ascii "-byte integral type")
      | .ok (size, rest) =>
        let visible := rest.head? = some 122
        (read whole fuel (if visible then rest.tail else rest)).map fun more => ⟨kind, size, visible⟩ :: more

/-- The format of an option of one letter. -/
def ofLetter? (key : String) : Option DumpFormat :=
  let table : List (String × DumpFormat) :=
    [("a", ⟨.named, 1, false⟩), ("b", ⟨.octal, 1, false⟩), ("c", ⟨.char, 1, false⟩),
     ("d", ⟨.unsigned, 2, false⟩),
     ("i", ⟨.signed, 4, false⟩), ("l", ⟨.signed, 8, false⟩), ("o", ⟨.octal, 2, false⟩),
     ("s", ⟨.signed, 2, false⟩), ("x", ⟨.hexadecimal, 2, false⟩)]
  (table.find? (·.1 == key)).map (·.2)

end DumpFormat

/-- How addresses are shown: in a base, with so many digits; without a base they are not. -/
structure Address where
  base : Nat := 8
  width : Nat := 7
deriving DecidableEq, Repr

/-- The address in front of a line. -/
def Address.shown (a : Address) (n : Nat) : Bytes :=
  if a.base = 0 then [] else padStart 48 a.width (digitsIn a.base n)

/-- The notation of addresses that a letter stands for. -/
def Address.ofLetter? (text : Bytes) : Option Address :=
  match text.map charOf with
  | 'o' :: _ => some {}
  | 'd' :: _ => some ⟨10, 7⟩
  | 'x' :: _ => some ⟨16, 6⟩
  | 'n' :: _ => some ⟨0, 0⟩
  | _ => none

/-- How `od` works. -/
structure DumpOptions where
  formats : List DumpFormat
  address : Address
  blockSize : Nat
  /-- Blocks that repeat the one before are shown all the same. -/
  verbose : Bool

/-- The lines of a dump of bytes that begin at an address. -/
def dumpLines (o : DumpOptions) : Nat → Nat → Option Bytes → Bool → Bytes → List Bytes
  | 0, _, _, _, _ => []
  | fuel + 1, n, last, starred, bytes =>
    if bytes.isEmpty then (if o.address.base = 0 then [] else [o.address.shown n ++ [10]])
    else
      let block := bytes.take o.blockSize
      let rest := bytes.drop o.blockSize
      let next := n + block.length
      if !o.verbose && last == some block then
        (if starred then [] else [ascii "*\n"]) ++ dumpLines o fuel next last true rest
      else
        let columns := o.formats.foldl (fun m f => max m (f.columns o.blockSize)) 0
        let lines := (o.formats.zipIdx).map fun (f, i) =>
          (if i = 0 then o.address.shown n else List.replicate o.address.width 32) ++
            f.line o.blockSize columns block ++ [10]
        lines ++ dumpLines o fuel next (if block.length = o.blockSize then some block else none) false rest

def odRows : List OptionRow :=
  [⟨some 'A', ["address-radix"], .value⟩, ⟨some 'j', ["skip-bytes"], .value⟩,
   ⟨some 'N', ["read-bytes"], .value⟩,
   ⟨some 't', ["format"], .value⟩, ⟨some 'v', ["output-duplicates"], .nothing⟩, ⟨some 'w', ["width"], .maybe⟩,
   ⟨none, ["traditional"], .nothing⟩] ++ letters "abcdilosx"

/-- Reads the options of `od`. -/
def dumpOptions (a : Arguments) : Printer DumpOptions := do
  let address ← match a.value? "A" with
    | none => pure {}
    | some text =>
      match Address.ofLetter? text with
      | some address => pure address
      | none =>
        die 1 (ascii "invalid output address radix '" ++ text.take 1 ++
          ascii "'; it must be one character from [doxn]")
  a.check 1
  let formats ← a.given.foldlM (fun (formats : List DumpFormat) g =>
    match g.key, g.value with
    | "t", some text =>
      match DumpFormat.read text (text.length + 1) text with
      | .ok more => return formats ++ more
      | .error fault => die 1 fault
    | key, _ => return formats ++ (DumpFormat.ofLetter? key).toList) []
  let formats := if formats.isEmpty then [⟨.octal, 2, false⟩] else formats
  let least := formats.foldl (fun n f => Nat.lcm n f.size) 1
  let plain := if 16 % least = 0 then 16 else least
  let blockSize ← match a.given.reverse.find? (·.key == "w") with
    | none => pure plain
    | some g =>
      match (g.value.map readNat?).getD (some 32) with
      | none => die 1 (ascii "invalid -w argument " ++ quoted (g.value.getD []))
      | some n =>
        if 0 < n && n % least = 0 then pure n
        else do
          complain (ascii "warning: invalid width " ++ digits n ++ ascii "; using " ++ digits least ++
            ascii " instead")
          pure least
  return ⟨formats, address, blockSize, a.has "v"⟩

/-- The size that an option of `od` has, if it was given. -/
def dumpSize (a : Arguments) (key : String) : Printer (Option Nat) :=
  match a.value? key with
  | none => return none
  | some text =>
    let (isHex, isOctal) := match text with
      | 48 :: x :: _ => (x = 120 || x = 88, x != 120 && x != 88)
      | _ => (false, false)
    let n :=
      if isHex || isOctal then
        let (n, count, rest) := takeDigits (if isHex then 16 else 8) (text.drop (if isHex then 2 else 1)) 0 0
        if count != 0 && rest.isEmpty then some n else none
      else (readSize "bcEGKkMmPTYZ0" text).toOption
    match n with
    | some n => return some n
    | none => die 1 (ascii "invalid -" ++ ascii key ++ ascii " argument " ++ quoted text)

/-- What an operand holds, as far as it is needed, and whether it could be read; one that could not be opened
holds nothing. -/
def readUpTo (most : Option Nat) (path : Bytes) : Printer (Option Bytes × Bool) := do
  match ← openOperand path with
  | .error e =>
    complainOf (fileName path) e
    return (none, false)
  | .ok d =>
    let enough (n : Nat) : Bool := most.any fun most => most ≤ n
    let blocks ← readBlocks d 4096 (fun ((blocks, n) : List Bytes × Nat) block =>
      let next := (block :: blocks, n + block.length)
      return if enough next.2 then .inr next else .inl next) ([], 0)
    closeOperand d
    match blocks with
    | .ok (blocks, _) => return (some blocks.reverse.flatten, true)
    | .error e =>
      complain (fileName path ++ ascii ": read error: " ++ e.libraryText.encode)
      return (some [], false)

def od : Utility := printing 1 fun args => do
  let a := Arguments.read odRows args
  let o ← dumpOptions a
  let skipped ← dumpSize a "j"
  let limit ← dumpSize a "N"
  let inputs ← (operandsOr a.operands).mapM (readUpTo (limit.map (· + skipped.getD 0)))
  let found := inputs.filterMap (·.1)
  if !found.isEmpty then
    let bytes := found.flatten
    let n := skipped.getD 0
    if bytes.length < n then die 1 (ascii "cannot skip past end of combined input")
    let bytes := bytes.drop n
    let bytes := match limit with
      | some limit => bytes.take limit
      | none => bytes
    (dumpLines o (bytes.length + 1) n none false bytes).forM say
  return codeOf (inputs.all (·.2))

end JobShell.Utility
