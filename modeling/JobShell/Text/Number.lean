import JobShell.Text.Basic

/-! # Reading numbers

A number is written as an optional sign and one or more decimal digits, and has to fit a range. The digits
are read from the left, and the first thing that goes wrong is reported: a number that has already left its
range is too large whatever follows, and a character that is no digit is reported before the range when
both show at the same place. -/

namespace JobShell.Text

/-- Why a text is not a number of the wanted range. -/
inductive NumberError
  | empty
  | invalidDigit
  | tooLarge
  | tooSmall
deriving DecidableEq, Repr

/-- The value of a decimal digit. -/
def digit? (c : Char) : Option Nat :=
  if '0' ≤ c ∧ c ≤ '9' then some (c.toNat - '0'.toNat) else none

/-- Reads digits behind the value `acc`, up to `limit`; `excess` is the error past the limit. -/
def readDigits (limit : Nat) (excess : NumberError) (acc : Nat) : Text → Except NumberError Nat
  | [] => .ok acc
  | c :: cs =>
    match digit? c with
    | none => .error .invalidDigit
    | some d => if acc * 10 + d ≤ limit then readDigits limit excess (acc * 10 + d) cs else .error excess

/-- The largest number of 64 bits. -/
def maxUnsigned : Nat := 0xFFFFFFFFFFFFFFFF

/-- The largest signed number of 32 bits; the least one is one further from zero. -/
def maxSigned : Nat := 0x7FFFFFFF

/-- Reads a number of 64 bits without a sign; a plus sign may stand in front. -/
def readUnsigned : Text → Except NumberError Nat
  | [] => .error .empty
  | ['+'] => .error .invalidDigit
  | '+' :: cs => readDigits maxUnsigned .tooLarge 0 cs
  | cs => readDigits maxUnsigned .tooLarge 0 cs

/-- Reads a signed number of 32 bits. -/
def readSigned : Text → Except NumberError Int
  | [] => .error .empty
  | ['+'] => .error .invalidDigit
  | ['-'] => .error .invalidDigit
  | '+' :: cs => (readDigits maxSigned .tooLarge 0 cs).map Int.ofNat
  | '-' :: cs => (readDigits (maxSigned + 1) .tooSmall 0 cs).map fun n => -Int.ofNat n
  | cs => (readDigits maxSigned .tooLarge 0 cs).map Int.ofNat

end JobShell.Text
