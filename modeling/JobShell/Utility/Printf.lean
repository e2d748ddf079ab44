import JobShell.Utility.Format
import JobShell.Utility.Options

/-! # Programs that write what they are told

`echo` writes its arguments, `printf` writes them in a format, and `yes` writes them without end. -/

namespace JobShell.Utility

open Printer

/-! ### Plain arguments -/

/-- An option of `echo` is a dash with letters for newline and escapes. -/
def isEchoOption (arg : Bytes) : Bool :=
  match arg with
  | 45 :: b :: rest => (b :: rest).all fun c => c == 110 || c == 101 || c == 69
  | _ => false

/-- Reads the options of `echo`: whether it ends the line, and whether it reads escapes. -/
def echoOptions : Bool → Bool → List Bytes → Bool × Bool × List Bytes
  | newline, escapes, arg :: rest =>
    if isEchoOption arg then
      let newline := newline && !arg.contains 110
      let escapes := arg.foldl (fun on c => if c = 101 then true else if c = 69 then false else on) escapes
      echoOptions newline escapes rest
    else (newline, escapes, arg :: rest)
  | newline, escapes, [] => (newline, escapes, [])

/-- Reads the escapes of an argument of `echo`. The flag says whether the text goes on, as `\c` ends it. -/
def echoEscapes : Nat → Bytes → Bytes × Bool
  | fuel + 1, 92 :: b :: rest =>
    let more (shown : Bytes) (rest : Bytes) : Bytes × Bool :=
      let (tail, goesOn) := echoEscapes fuel rest
      (shown ++ tail, goesOn)
    if b = 99 then ([], false)
    else if b = 92 then more [92] rest
    else if b = 48 then
      let (n, rest) := takeSome 8 3 0 rest
      more [UInt8.ofNat n] rest
    else if (digitValue? 8 b).isSome then
      let (n, rest) := takeSome 8 3 0 (b :: rest)
      more [UInt8.ofNat n] rest
    else if b = 120 && rest.head?.any fun d => (digitValue? 16 d).isSome then
      let (n, rest) := takeSome 16 2 0 rest
      more [UInt8.ofNat n] rest
    else
      match letterEscape? b with
      | some c => more [c] rest
      | none => more [92, b] rest
  | fuel + 1, b :: rest =>
    let (tail, goesOn) := echoEscapes fuel rest
    (b :: tail, goesOn)
  | _, rest => (rest, true)

def echo : Utility := printing 1 fun args => do
  let (newline, escapes, args) := echoOptions true false args
  let line := [32].intercalate args
  let (line, goesOn) := if escapes then echoEscapes line.length line else (line, true)
  say (if newline && goesOn then line ++ [10] else line)
  return 0

def yes : Utility := printing 1 fun args => do
  let a := Arguments.read [] args
  a.check 1
  let line := (if a.operands.isEmpty then ascii "y" else [32].intercalate a.operands) ++ [10]
  let block := (List.replicate (8192 / line.length + 1) line).flatten
  repeated (fun _ => do
    say block
    flush
    return .inl ()) ()

/-! ### Formats -/

/-- What a format has used, and whether something was wrong with an argument. -/
structure FormatState where
  args : List Bytes
  well : Bool := true
  /-- The format asks for arguments. -/
  asks : Bool := false
deriving Repr

/-- Writes the escape behind a backslash, and answers what is behind it. An octal number begins with a zero
if `zeroOctal`, and then has three more digits. -/
def writeEscape (zeroOctal : Bool) (rest : Bytes) : Printer Bytes := do
  match rest with
  | [] =>
    say [92]
    return []
  | b :: behind =>
    if b = 120 then
      if behind.head?.any fun d => (digitValue? 16 d).isSome then
        let (n, left) := takeSome 16 2 0 behind
        say [UInt8.ofNat n]
        return left
      else die 1 (ascii "missing hexadecimal number in escape")
    else if (digitValue? 8 b).isSome then
      let (n, left) := takeSome 8 3 0 (if zeroOctal && b = 48 then behind else rest)
      say [UInt8.ofNat n]
      return left
    else if b = 99 then quit 0
    else if b = 34 || b = 92 then
      say [b]
      return behind
    else if b = 117 || b = 85 then
      let (n, left) := takeSome 16 (if b = 117 then 4 else 8) 0 behind
      if behind.length - left.length < (if b = 117 then 4 else 8) then
        die 1 (ascii "missing hexadecimal number in escape")
      else if n < 128 then
        say [UInt8.ofNat n]
        return left
      else
        -- A character that ASCII does not have is written as its number, in four digits or in eight.
        let shown := (digitsIn 16 n).map toUpper
        say (if n < 65536 then ascii "\\u" ++ padStart 48 4 shown else ascii "\\U" ++ padStart 48 8 shown)
        return left
    else
      match letterEscape? b with
      | some c =>
        say [c]
        return behind
      | none =>
        say [92, b]
        return behind

/-- Writes an argument with its escapes. -/
def writeEscaped : Nat → Bytes → Printer Unit
  | 0, _ => return
  | _, [] => return
  | fuel + 1, 92 :: rest => do
    let left ← writeEscape true rest
    writeEscaped fuel left
  | fuel + 1, b :: rest => do
    say [b]
    writeEscaped fuel rest

/-- What is wrong with a number in an argument. -/
inductive NumberFault
  | notNumeric
  | trailing
  | range
  /-- There is more behind a character that stands for its number. -/
  | behindCharacter (rest : Bytes)
deriving DecidableEq, Repr

/-- What is said about a number in an argument. -/
def NumberFault.message (text : Bytes) : NumberFault → Bytes
  | notNumeric => quoted text ++ ascii ": expected a numeric value"
  | trailing => quoted text ++ ascii ": value not completely converted"
  | range => quoted text ++ ascii ": Numerical result out of range"
  | behindCharacter rest =>
    ascii "warning: " ++ rest ++ ascii ": character(s) following character constant have been ignored"

/-- Reads an integer in base 10, in base 8 behind a zero, or in base 16 behind `0x`. -/
def readInteger (text : Bytes) : Int × Nat × Bytes :=
  let (negative, rest) := takeSign (trimStart text)
  let hex := match rest with
    | 48 :: x :: d :: _ => (x == 120 || x == 88) && (digitValue? 16 d).isSome
    | _ => false
  let (value, count, behind) :=
    if hex then takeDigits 16 (rest.drop 2) 0 0
    else if rest.head? = some 48 then takeDigits 8 rest 0 0
    else takeDigits 10 rest 0 0
  (if negative then -(value : Int) else value, count, if count = 0 then text else behind)

/-- A character that stands for its number, behind a quote. -/
def characterNumber? (text : Bytes) : Option (Nat × Option NumberFault) :=
  match text with
  | q :: b :: rest =>
    if q = 34 || q = 39 then
      some (b.toNat, if rest.isEmpty then none else some (.behindCharacter rest))
    else none
  | _ => none

/-- The integer of an argument, between the limits that a machine word has. -/
def integerArgument (unsigned : Bool) (text : Bytes) : Int × Option NumberFault :=
  match characterNumber? text with
  | some (n, fault) => (n, fault)
  | none =>
    let (value, count, behind) := readInteger text
    let (value, outside) :=
      if unsigned then
        if maxWord < value.natAbs then ((maxWord : Int), true)
        else (if value < 0 then value + maxWord + 1 else value, false)
      else if (maxSigned : Int) < value then ((maxSigned : Int), true)
      else if value < -(maxSigned : Int) - 1 then (-(maxSigned : Int) - 1, true)
      else (value, false)
    let fault :=
      if outside then some NumberFault.range
      else if behind.isEmpty && (count != 0 || text.isEmpty) then none
      else if count = 0 then some .notNumeric
      else some .trailing
    (value, fault)

/-- The fraction of an argument. -/
def fractionArgument (text : Bytes) : Decimal × Option NumberFault :=
  match characterNumber? text with
  | some (n, fault) => (⟨n, 1, 0⟩, fault)
  | none =>
    match Decimal.take? text with
    | some (x, rest) => (x, if rest.isEmpty then none else some .trailing)
    | none => (⟨0, 1, 0⟩, if text.isEmpty then none else some .notNumeric)

/-- What is written for an argument that is infinite or no number, without its sign. -/
def specialNumber? (text : Bytes) : Option (Bool × Bytes) :=
  let (negative, rest) := takeSign (trimStart text)
  let name := rest.map toLower
  if name == ascii "inf" || name == ascii "infinity" then some (negative, ascii "inf")
  else if name == ascii "nan" then some (negative, ascii "nan")
  else none

/-- Takes the next argument of a format; without one it is empty. -/
def FormatState.take (s : FormatState) : Bytes × FormatState :=
  (s.args.headD [], { s with args := s.args.tail, asks := true })

/-- Notes what is wrong with an argument, and says so. -/
def FormatState.note (s : FormatState) (text : Bytes) : Option NumberFault → Printer FormatState
  | none => return s
  | some (.behindCharacter rest) => do
    complain ((NumberFault.behindCharacter rest).message text)
    return s
  | some fault => do
    complain (fault.message text)
    return { s with well := false }

/-- Reads the flags of a directive. -/
def readFlags (d : Directive) : Bytes → Directive × Bytes
  | [] => (d, [])
  | b :: rest =>
    match charOf b with
    | '-' => readFlags { d with left := true } rest
    | '+' => readFlags { d with plus := true } rest
    | ' ' => readFlags { d with space := true } rest
    | '#' => readFlags { d with alternative := true } rest
    | '0' => readFlags { d with zero := true } rest
    | '\'' | 'I' => readFlags d rest
    | _ => (d, b :: rest)

/-- Reads a width or a precision: digits, or a star that stands for an argument. -/
def readField (s : FormatState) (text : Bytes) : Printer (Int × FormatState × Bytes) := do
  match text with
  | 42 :: rest =>
    let (arg, s) := s.take
    let (value, fault) := integerArgument false arg
    let s ← s.note arg fault
    return (value, s, rest)
  | _ =>
    let (value, _, rest) := takeDigits 10 text 0 0
    return (value, s, rest)

/-- Writes an argument as a directive says. -/
def writeDirective (d : Directive) (s : FormatState) : Printer FormatState := do
  let (arg, s) := s.take
  match d.conversion with
  | 's' =>
    say (d.formatText arg)
    return s
  | 'c' =>
    say (d.pad (if arg.isEmpty then [0] else arg.take 1))
    return s
  | 'd' | 'i' =>
    let (value, fault) := integerArgument false arg
    let s ← s.note arg fault
    say (d.formatInt value)
    return s
  | 'o' | 'u' | 'x' | 'X' =>
    let (value, fault) := integerArgument true arg
    let s ← s.note arg fault
    say (d.formatNat value.toNat)
    return s
  | _ =>
    match specialNumber? arg with
    | some (negative, name) =>
      say (d.pad (d.sign negative ++ if d.conversion.isUpper then name.map toUpper else name))
      return s
    | none =>
      let (value, fault) := fractionArgument arg
      let s ← s.note arg fault
      say (d.formatFraction 64 value)
      return s

/-- The conversions that a directive can have, given its flags and whether it has a precision. -/
def allowedConversions (flags : Bytes) (precise : Bool) : List Char :=
  let refused := (if flags.any fun b => b = 39 || b = 73 then "aAceEosxX" else "") ++
    (if flags.contains 35 then "cdisu" else "") ++ (if flags.contains 48 then "cs" else "") ++
    if precise then "c" else ""
  "diouxXfFeEgGaAcs".toList.filter fun c => !refused.toList.contains c

/-- Reads a directive behind its percent sign, and writes what it asks for; the answer is what is behind. -/
def directive (s : FormatState) (rest : Bytes) : Printer (FormatState × Bytes) := do
  match rest with
  | 37 :: behind =>
    say [37]
    return (s, behind)
  | 98 :: behind =>
    let (arg, s) := s.take
    writeEscaped (arg.length + 1) arg
    return (s, behind)
  | 113 :: behind =>
    let (arg, s) := s.take
    say (if needsQuotes arg then shellQuoted arg else arg)
    return (s, behind)
  | _ =>
    let (d, behind) := readFlags {} rest
    let flags := rest.take (rest.length - behind.length)
    let (width, s, behind) ← readField s behind
    let d := { d with left := d.left || width < 0, width := width.natAbs }
    let allowed := allowedConversions flags (behind.head? = some 46)
    let (d, s, behind) ← match behind with
      | 46 :: behind => do
        let (precision, s, behind) ← readField s behind
        pure ({ d with precision := if precision < 0 then none else some precision.toNat }, s, behind)
      | _ => pure (d, s, behind)
    let behind := behind.dropWhile fun b => "lLhjtz".toList.contains (charOf b)
    match behind with
    | b :: left =>
      if allowed.contains (charOf b) then
        let s ← writeDirective { d with conversion := charOf b } s
        return (s, left)
      else die 1 (37 :: rest.take (rest.length - left.length) ++ ascii ": invalid conversion specification")
    | [] => die 1 (37 :: rest ++ ascii ": invalid conversion specification")

/-- Writes a format once. -/
def writeFormat : Nat → FormatState → Bytes → Printer FormatState
  | 0, s, _ => return s
  | _, s, [] => return s
  | fuel + 1, s, 37 :: rest => do
    let (s, left) ← directive s rest
    writeFormat fuel s left
  | fuel + 1, s, 92 :: rest => do
    let left ← writeEscape false rest
    writeFormat fuel s left
  | fuel + 1, s, b :: rest => do
    say [b]
    writeFormat fuel s rest

/-- Writes a format as often as there are arguments for it. -/
def writeFormats (format : Bytes) : Nat → FormatState → Printer FormatState
  | 0, s => return s
  | fuel + 1, s => do
    let after ← writeFormat (format.length + 1) s format
    if after.args.isEmpty then return after
    else if after.args.length = s.args.length then
      complain (ascii "warning: ignoring excess arguments, starting with " ++ quoted (after.args.headD []))
      return after
    else writeFormats format fuel after

def printf : Utility := printing 1 fun args => do
  match (if args.head? = some (ascii "--") then args.tail else args) with
  | [] => misuse 1 (ascii "missing operand")
  | format :: args =>
    let s ← writeFormats format (args.length + 1) { args }
    return codeOf s.well

end JobShell.Utility
