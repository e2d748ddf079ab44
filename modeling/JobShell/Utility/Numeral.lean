import JobShell.Utility.Basic

/-! # Numerals

How the arguments of programs are read as numbers: plain digits, numbers with a unit of size behind them, and
numbers with decimal places and an exponent. -/

namespace JobShell.Utility

/-- Reads decimal digits. -/
def readNat? (bytes : Bytes) : Option Nat :=
  if bytes.isEmpty then none
  else bytes.foldl (fun acc b => acc.bind fun n =>
    if isDigit b then some (n * 10 + (b.toNat - 48)) else none) (some 0)

/-- Reads a decimal integer. -/
def readInt? : Bytes → Option Int
  | 45 :: digits => (readNat? digits).map fun n => -(n : Int)
  | 43 :: digits => (readNat? digits).map Int.ofNat
  | digits => (readNat? digits).map Int.ofNat

/-- The value of a digit in a base up to 36. -/
def digitValue? (base : Nat) (b : UInt8) : Option Nat :=
  let n :=
    if isDigit b then b.toNat - 48
    else if isLower b then b.toNat - 87
    else if isUpper b then b.toNat - 55
    else base
  if n < base then some n else none

/-- The number of the digits in front of a text, how many they are, and what is behind them. -/
def takeDigits (base : Nat) : Bytes → Nat → Nat → Nat × Nat × Bytes
  | b :: rest, value, count =>
    match digitValue? base b with
    | some d => takeDigits base rest (value * base + d) (count + 1)
    | none => (value, count, b :: rest)
  | [], value, count => (value, count, [])

/-- The number of up to `limit` digits in front of a text, and what is behind them. -/
def takeSome (base : Nat) : Nat → Nat → Bytes → Nat × Bytes
  | 0, n, bytes => (n, bytes)
  | limit + 1, n, b :: bytes =>
    match digitValue? base b with
    | some d => takeSome base limit (n * base + d) bytes
    | none => (n, b :: bytes)
  | _, n, [] => (n, [])

/-- Takes the sign off a text, and says whether it is a minus sign. -/
def takeSign : Bytes → Bool × Bytes
  | 45 :: rest => (true, rest)
  | 43 :: rest => (false, rest)
  | rest => (false, rest)

/-- The digits of a number in a base. -/
def digitsIn (base n : Nat) : Bytes :=
  (Nat.toDigits base n).map fun c => byte c

/-! ### Sizes -/

/-- What is wrong with a size. -/
inductive SizeError
  | invalid
  | tooLarge
deriving DecidableEq, Repr

/-- The greatest number of 64 bits. -/
def maxWord : Nat := 18446744073709551615

/-- The greatest signed number of 64 bits. -/
def maxSigned : Nat := 9223372036854775807

/-- The letters of units that grow by a factor each, with the power of the factor. -/
def sizeUnits : List (Char × Nat) :=
  [('k', 1), ('K', 1), ('m', 2), ('M', 2), ('g', 3), ('G', 3), ('t', 4), ('T', 4), ('P', 5), ('E', 6),
   ('Z', 7),
   ('Y', 8), ('R', 9), ('Q', 10)]

/-- A power of a number. -/
def power (base : Nat) : Nat → Nat
  | 0 => 1
  | n + 1 => base * power base n

/-- How many bytes a unit stands for. -/
def unitSize? (allowed : String) (suffix : Bytes) : Option Nat :=
  match suffix.map charOf with
  | [] => some 1
  | c :: rest =>
    if !allowed.toList.contains c then none
    else if c == 'b' && rest.isEmpty then some 512
    else if c == 'w' && rest.isEmpty then some 2
    else if c == 'c' && rest.isEmpty then some 1
    else if c == 'B' && rest.isEmpty then some 1024
    else
      match sizeUnits.find? (·.1 == c), rest with
      | some (_, n), [] => some (power 1024 n)
      | some (_, n), ['i', 'B'] => if allowed.toList.contains '0' then some (power 1024 n) else none
      | some (_, n), ['B'] | some (_, n), ['D'] =>
        if allowed.toList.contains '0' then some (power 1000 n) else none
      | _, _ => none

/-- Reads a size, which is a number with one of the allowed units behind it. A unit alone stands for one. -/
def readSize (allowed : String) (bytes : Bytes) : Except SizeError Nat :=
  let text := trimStart bytes
  if text.head? = some 45 then .error .invalid
  else
    let unsigned := (takeSign text).2
    let (value, count, suffix) := takeDigits 10 unsigned 0 0
    let alone := count = 0 && unsigned.length = bytes.length && !suffix.isEmpty
    if count = 0 && !alone then .error .invalid
    else
      match unitSize? allowed suffix with
      | none => .error .invalid
      | some unit =>
        let size := (if count = 0 then 1 else value) * unit
        if maxWord < size then .error .tooLarge else .ok size

/-! ### Decimal fractions -/

/-- A number with decimal places: `numerator / denominator`, where `places` places were written. -/
structure Decimal where
  numerator : Int
  denominator : Nat
  places : Nat
deriving Repr

namespace Decimal

/-- How large an exponent can be before it makes no difference any more. -/
def maxExponent : Nat := 5000

/-- The digits of a number with a point in it: all of them as one number, how many are behind the point, how
many there are, and what is behind them. -/
def takePlaces (base : Nat) (bytes : Bytes) : Nat × Nat × Nat × Bytes :=
  let (whole, count, rest) := takeDigits base bytes 0 0
  match rest with
  | 46 :: rest =>
    let (value, more, rest) := takeDigits base rest whole 0
    if count + more = 0 then (0, 0, 0, bytes) else (value, more, count + more, rest)
  | _ => (whole, 0, count, rest)

/-- The exponent behind one of two letters, if there is one, and what is behind it. -/
def takeExponent (letters : List UInt8) (bytes : Bytes) : Int × Bytes :=
  match bytes with
  | [] => (0, [])
  | letter :: behind =>
    if letters.contains letter then
      let (negative, text) := takeSign behind
      let (value, count, rest) := takeDigits 10 text 0 0
      if count = 0 then (0, bytes)
      else
        let value := min value maxExponent
        (if negative then -(value : Int) else value, rest)
    else (0, bytes)

/-- The number `value * base ^ exponent`, over a denominator. -/
def scaled (negative : Bool) (value base : Nat) (exponent : Int) (denominator places : Nat) : Decimal :=
  let up := power base exponent.toNat
  let down := power base (-exponent).toNat
  { numerator := if negative then -((value * up : Nat) : Int) else (value * up : Nat)
    denominator := denominator * down
    places := (places - exponent).toNat }

/-- The number in front of a text, and what is behind it: digits with a point and an exponent in base 10, or
behind `0x` in base 16. Without digits there is none. -/
def take? (bytes : Bytes) : Option (Decimal × Bytes) :=
  let (negative, text) := takeSign (trimStart bytes)
  let isHex := match text with
    | 48 :: x :: _ => (x == 120 || x == 88) && 0 < (takePlaces 16 (text.drop 2)).2.2.1
    | _ => false
  if isHex then
    let (value, places, _, rest) := takePlaces 16 (text.drop 2)
    let (exponent, rest) := takeExponent [112, 80] rest
    some (scaled negative value 2 exponent (power 16 places) 0, rest)
  else
    let (value, places, count, rest) := takePlaces 10 text
    if count = 0 then none
    else
      let (exponent, rest) := takeExponent [101, 69] rest
      some (scaled negative value 10 exponent (power 10 places) places, rest)

end Decimal

end JobShell.Utility
