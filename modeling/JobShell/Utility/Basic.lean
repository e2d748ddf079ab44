import JobShell.Kernel.Stream

/-! # Programs around the shell

The programs that a machine comes with. A program gets its arguments, its own name first, and ends with an
exit code. -/

namespace JobShell

/-- A program by its arguments. -/
abbrev Utility := List Bytes → Prog Int

namespace Utility

/-- The bytes of a constant text. -/
def ascii (s : String) : Bytes :=
  Text.encode s.toList

/-- The byte of an ASCII character. -/
def byte (c : Char) : UInt8 :=
  UInt8.ofNat c.toNat

/-- The character whose number a byte is. -/
def charOf (b : UInt8) : Char :=
  Char.ofNat b.toNat

/-- The digits of a number. -/
def digits (n : Nat) : Bytes :=
  (Text.ofNat n).encode

/-- Writes to the standard error. -/
def warn (bytes : Bytes) : Prog Unit := do
  let _ ← Stream.write 2 bytes

/-- The standard input if there are no operands. -/
def operandsOr (operands : List Bytes) : List Bytes :=
  if operands.isEmpty then [ascii "-"] else operands

/-- The pieces of an input that end at a byte, without that byte; the last piece may end without it. -/
def piecesOf (ending : UInt8) (bytes : Bytes) : List Bytes :=
  let pieces := bytes.splitOnP (· == ending)
  if pieces.getLast? = some [] then pieces.dropLast else pieces

/-- The lines of an input, without their line feeds. -/
def linesOf (bytes : Bytes) : List Bytes :=
  piecesOf 10 bytes

/-- The pieces of an input that end at a byte, each with that byte if it is there. -/
def fullPieces (ending : UInt8) (bytes : Bytes) : List Bytes :=
  let pieces := bytes.splitOnP (· == ending)
  pieces.dropLast.map (· ++ [ending]) ++ (match pieces.getLast? with
    | some (b :: rest) => [b :: rest]
    | _ => [])

/-- Whether a byte is white space in ASCII. -/
def isSpace (b : UInt8) : Bool :=
  b == 32 || (9 ≤ b && b ≤ 13)

/-- Whether a byte is a blank: a space or a tab. -/
def isBlank (b : UInt8) : Bool :=
  b == 32 || b == 9

def isDigit (b : UInt8) : Bool :=
  48 ≤ b && b ≤ 57

/-- Whether a byte is an ASCII character that can be seen, or the space. -/
def isPrintable (b : UInt8) : Bool :=
  32 ≤ b && b ≤ 126

def isUpper (b : UInt8) : Bool :=
  65 ≤ b && b ≤ 90

def isLower (b : UInt8) : Bool :=
  97 ≤ b && b ≤ 122

def isLetter (b : UInt8) : Bool :=
  isUpper b || isLower b

def toUpper (b : UInt8) : UInt8 :=
  if isLower b then b - 32 else b

def toLower (b : UInt8) : UInt8 :=
  if isUpper b then b + 32 else b

/-- The text without white space in front. -/
def trimStart (bytes : Bytes) : Bytes :=
  bytes.dropWhile isSpace

/-- The order of bytes, and of shorter before longer. -/
def compareBytes : Bytes → Bytes → Ordering
  | [], [] => .eq
  | [], _ :: _ => .lt
  | _ :: _, [] => .gt
  | a :: as, b :: bs => if a < b then .lt else if b < a then .gt else compareBytes as bs

/-- Whether a text comes before another one, or is the same. -/
def before (a b : Bytes) : Bool :=
  compareBytes a b != .gt

/-- A text with bytes in front, so that it is as wide as asked for. -/
def padStart (filler : UInt8) (width : Nat) (bytes : Bytes) : Bytes :=
  List.replicate (width - bytes.length) filler ++ bytes

/-- A text with blanks behind, so that it is as wide as asked for. -/
def padEnd (width : Nat) (bytes : Bytes) : Bytes :=
  bytes ++ List.replicate (width - bytes.length) 32

end Utility

end JobShell
