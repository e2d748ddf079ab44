import JobShell.Utility.Numeral
import JobShell.Utility.Options

/-! # First and last parts of inputs

`head` writes the first lines or bytes of its operands, and `tail` the last ones. A `head` that reads from a
file leaves it right behind what it wrote. -/

namespace JobShell.Utility

open Printer

/-- How much of an input is wanted. -/
structure Amount where
  count : Nat := 10
  /-- Bytes are counted, and not lines. -/
  bytes : Bool := false
  /-- The amount is counted from the other end: what is left out. -/
  inverse : Bool := false
deriving Repr

/-- When operands are announced. -/
inductive Announce
  | several
  | always
  | never
deriving DecidableEq, Repr

/-- How an excerpt is made. -/
structure ExcerptOptions where
  amount : Amount := {}
  announce : Announce := .several
  ending : UInt8 := 10
  /-- The input is watched for more. -/
  follow : Bool := false
deriving Repr

/-- The units that an amount may have. -/
def amountUnits : String := "bkKmMGTPEZYRQ0"

/-- What is said about an amount that cannot be read. -/
def amountFault (bytes : Bool) (text : Bytes) (e : SizeError) : Bytes :=
  ascii (if bytes then "invalid number of bytes: " else "invalid number of lines: ") ++ quoted text ++
    ascii (if e = .tooLarge then ": Value too large for defined data type" else "")

/-- Reads an amount, or ends the program. -/
def readAmount (bytes inverse : Bool) (text : Bytes) : Printer Amount :=
  match readSize amountUnits text with
  | .ok count => return ⟨count, bytes, inverse⟩
  | .error e => die 1 (amountFault bytes text e)

/-- The name of an operand in an announcement. -/
def announcedName (path : Bytes) : Bytes :=
  if path = ascii "-" then ascii "standard input" else path

/-- Announces an operand, with an empty line in front unless it is the first. -/
def announce (first : Bool) (path : Bytes) : Printer Unit :=
  say ((if first then [] else [10]) ++ ascii "==> " ++ announcedName path ++ ascii " <==\n")

/-- Runs a step on each operand that can be opened. -/
def eachOperand (o : ExcerptOptions) (operands : List Bytes)
    (step : Descriptor → Printer (Except Errno Unit)) :
    Printer Int := do
  let announces : Bool := match o.announce with
    | .several => 1 < operands.length
    | .always => true
    | .never => false
  let (well, _) ← (operandsOr operands).foldlM (fun (well, first) path => do
    match ← openOperand path with
    | .error e =>
      complainOf (ascii "cannot open " ++ shellQuoted (announcedName path) ++ ascii " for reading") e
      return (false, first)
    | .ok d =>
      if announces then announce first path
      let result ← step d
      closeOperand d
      match result with
      | .ok _ => return (well, false)
      | .error e =>
        complainOf (ascii "error reading " ++ shellQuoted (announcedName path)) e
        return (false, false)) (true, true)
  return codeOf well

/-! ### The first part -/

/-- Sets an input back by bytes that were read too much; only a file can be set back. -/
def setBack (d : Descriptor) (excess : Nat) : Printer Unit := do
  if 0 < excess then
    if let .ok info ← serve (.describe d) then
      let _ ← serve (.seek d (info.offset - excess))

/-- How much `head` reads at once. -/
def headBlock : Nat := 8192

/-- Writes the first pieces of an input. -/
def headLines (d : Descriptor) (ending : UInt8) (count : Nat) : Printer (Except Errno Unit) :=
  if count = 0 then return .ok ()
  else do
    let result ← readBlocks d headBlock (fun (left : Nat) block => do
      let pieces := fullPieces ending block
      let taken := pieces.take left
      let ended := taken.countP fun p => p.getLast? == some ending
      say taken.flatten
      if ended < left then return .inl (left - ended)
      else
        setBack d (block.length - taken.flatten.length)
        return .inr 0) count
    return result.map fun _ => ()

/-- Writes the first bytes of an input, and reads no more than these. -/
def headBytes (d : Descriptor) (count : Nat) : Printer (Except Errno Unit) :=
  repeated (fun (left : Nat) => do
    if left = 0 then return .inr (.ok ())
    else
      match ← perform (.read d (min left headBlock)) with
      | .error e => return .inr (.error e)
      | .ok [] => return .inr (.ok ())
      | .ok block =>
        say block
        return .inl (left - block.length)) count

/-- Writes an input without its last part. -/
def headWithout (d : Descriptor) (o : ExcerptOptions) : Printer (Except Errno Unit) := do
  match ← readAll d with
  | .error e => return .error e
  | .ok bytes =>
    let kept :=
      if o.amount.bytes then bytes.take (bytes.length - o.amount.count)
      else
        let pieces := fullPieces o.ending bytes
        (pieces.take (pieces.length - o.amount.count)).flatten
    say kept
    setBack d (bytes.length - kept.length)
    return .ok ()

def headRows : List OptionRow :=
  [⟨some 'c', ["bytes"], .value⟩, ⟨some 'n', ["lines"], .value⟩, ⟨some 'q', ["quiet", "silent"], .nothing⟩,
   ⟨some 'v', ["verbose"], .nothing⟩, ⟨some 'z', ["zero-terminated"], .nothing⟩] ++ letters "0123456789"

/-- Reads an amount that may be counted from the other end. -/
def headAmount (bytes : Bool) : Bytes → Printer Amount
  | 45 :: text => readAmount bytes true text
  | text => readAmount bytes false text

/-- Ends the program as an option has letters behind it that it cannot have. -/
def trailing {α : Type} (letter : Bytes) : Printer α :=
  misuse 1 (ascii "invalid trailing option -- " ++ letter)

/-- Applies an option of `head`. -/
def headOption (o : ExcerptOptions) (g : Given) : Printer ExcerptOptions := do
  match g.key, g.value with
  | "c", some text => return { o with amount := ← headAmount true text }
  | "n", some text => return { o with amount := ← headAmount false text }
  | "q", _ => return { o with announce := .never }
  | "v", _ => return { o with announce := .always }
  | "z", _ => return { o with ending := 0 }
  | digit, _ => trailing (ascii digit)

/-- Applies the letters behind a number that is an option by itself; the last unit that is asked for is
remembered. -/
def headSuffix (o : ExcerptOptions) (unit : Bytes) : Bytes → Printer (ExcerptOptions × Bytes)
  | [] => return (o, unit)
  | b :: rest =>
    match charOf b with
    | 'c' => headSuffix { o with amount := { o.amount with bytes := true } } [] rest
    | 'b' | 'k' | 'm' => headSuffix { o with amount := { o.amount with bytes := true } } [b] rest
    | 'l' => headSuffix { o with amount := { o.amount with bytes := false } } unit rest
    | 'q' => headSuffix { o with announce := .never } unit rest
    | 'v' => headSuffix { o with announce := .always } unit rest
    | 'z' => headSuffix { o with ending := 0 } unit rest
    | _ => trailing [b]

/-- Applies a number that is an option by itself, if the first argument is one. -/
def headNumber (args : List Bytes) : Printer (ExcerptOptions × List Bytes) := do
  match args with
  | (45 :: b :: text) :: rest =>
    if isDigit b then
      let (o, unit) ← headSuffix {} [] (text.dropWhile isDigit)
      let amount ← readAmount o.amount.bytes false ((b :: text).takeWhile isDigit ++ unit)
      return ({ o with amount }, rest)
    else return ({}, args)
  | _ => return ({}, args)

def head : Utility := printing 1 fun args => do
  let (o, args) ← headNumber args
  let a := Arguments.read headRows args
  let o ← a.given.foldlM headOption o
  a.check 1
  eachOperand o a.operands fun d =>
    if o.amount.inverse then headWithout d o
    else if o.amount.bytes then headBytes d o.amount.count
    else headLines d o.ending o.amount.count

/-! ### The last part -/

/-- The last part of an input, or the part behind its beginning. -/
def tailOf (o : ExcerptOptions) (bytes : Bytes) : Bytes :=
  let count := o.amount.count
  if o.amount.bytes then
    if o.amount.inverse then bytes.drop (count - 1) else bytes.drop (bytes.length - count)
  else
    let pieces := fullPieces o.ending bytes
    (if o.amount.inverse then pieces.drop (count - 1) else pieces.drop (pieces.length - count)).flatten

/-- Writes what is added to an input, again and again. -/
def watch (d : Descriptor) : Printer (Except Errno Unit) :=
  repeated (fun _ => do
    flush
    match ← perform (.read d blockSize) with
    | .error e => return .inr (.error e)
    | .ok [] =>
      serve (.sleep 1000000000)
      return .inl ()
    | .ok block =>
      say block
      return .inl ()) ()

def tailRows : List OptionRow :=
  [⟨some 'c', ["bytes"], .value⟩, ⟨some 'f', ["follow"], .maybe⟩, ⟨some 'F', [], .nothing⟩,
   ⟨some 'n', ["lines"], .value⟩, ⟨some 'q', ["quiet", "silent"], .nothing⟩, ⟨none, ["retry"], .nothing⟩,
   ⟨some 's', ["sleep-interval"], .value⟩, ⟨some 'v', ["verbose"], .nothing⟩,
   ⟨some 'z', ["zero-terminated"], .nothing⟩] ++ letters "0123456789"

/-- Reads an amount that is counted from the beginning behind a plus sign. -/
def tailAmount (bytes : Bool) : Bytes → Printer Amount
  | 45 :: text => readAmount bytes false text
  | text => readAmount bytes (text.head? == some 43) text

/-- Applies an option of `tail`. -/
def tailOption (o : ExcerptOptions) (g : Given) : Printer ExcerptOptions := do
  match g.key, g.value with
  | "c", some text => return { o with amount := ← tailAmount true text }
  | "n", some text => return { o with amount := ← tailAmount false text }
  | "f", _ | "F", _ => return { o with follow := true }
  | "q", _ => return { o with announce := .never }
  | "v", _ => return { o with announce := .always }
  | "z", _ => return { o with ending := 0 }
  | "retry", _ | "s", _ => return o
  | digit, _ => die 1 (ascii "option used in invalid context -- " ++ ascii digit)

/-- Reads an amount that is an option by itself. -/
def tailNumber? (text : Bytes) : Option ExcerptOptions :=
  let read (inverse : Bool) (text : Bytes) : Option ExcerptOptions :=
    let number := text.takeWhile isDigit
    let rest := text.dropWhile isDigit
    let bytes := rest.head? == some 99 || rest.head? == some 98
    let unit := if rest.head? == some 98 then 512 else 1
    let rest := if bytes || rest.head? == some 108 then rest.drop 1 else rest
    let follow := rest.head? == some 102
    let rest := if follow then rest.drop 1 else rest
    if rest.isEmpty then
      some { amount := ⟨(readNat? number).getD 10 * unit, bytes, inverse⟩, follow }
    else none
  match text with
  | 43 :: text => read true text
  | [45] | [45, 99] => none
  | 45 :: text => read false text
  | _ => none

/-- Whether the arguments behind an amount are at most one operand. -/
def isOneOperand : List Bytes → Bool
  | [] => true
  | [operand] => operand == ascii "-" || operand == ascii "--" || operand.head? != some 45
  | [dashes, _] => dashes == ascii "--"
  | _ => false

/-- Applies an amount that is an option by itself, if the first argument is one. -/
def tailNumber (args : List Bytes) : ExcerptOptions × List Bytes :=
  match args with
  | first :: rest =>
    match tailNumber? first with
    | some o => if isOneOperand rest then (o, rest) else ({}, args)
    | none => ({}, args)
  | [] => ({}, [])

def tail : Utility := printing 1 fun args => do
  let (o, args) := tailNumber args
  let a := Arguments.read tailRows args
  let o ← a.given.foldlM tailOption o
  a.check 1
  if o.amount.count = 0 && !o.amount.inverse && !o.follow then return 0
  else
    eachOperand o a.operands fun d => do
      match ← readAll d with
      | .error e => return .error e
      | .ok bytes =>
        say (tailOf o bytes)
        if o.follow then watch d else return .ok ()

end JobShell.Utility
