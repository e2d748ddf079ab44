import JobShell.Utility.Numeral
import JobShell.Utility.Printer

/-! # Formatted numbers and texts

A directive of a format says how a number or a text is written: with which flags, how wide, and with how many
digits. Fractions are first rounded to a binary number of so many bits, as they would be in a machine, and
then written exactly. -/

namespace JobShell.Utility

/-- A directive of a format. -/
structure Directive where
  left : Bool := false
  plus : Bool := false
  space : Bool := false
  alternative : Bool := false
  zero : Bool := false
  width : Nat := 0
  precision : Option Nat := none
  conversion : Char := 's'
deriving DecidableEq, Repr

namespace Directive

/-- Puts a text into its field. -/
def pad (d : Directive) (text : Bytes) : Bytes :=
  if d.left then padEnd d.width text else padStart 32 d.width text

/-- Puts a number into its field: a sign or prefix, and digits; with `zeros` the field is filled by zeros. -/
def padNumber (d : Directive) (zeros : Bool) (front digits : Bytes) : Bytes :=
  if zeros && !d.left then front ++ padStart 48 (d.width - front.length) digits
  else d.pad (front ++ digits)

/-- A text, as much of it as there is room for. -/
def formatText (d : Directive) (text : Bytes) : Bytes :=
  d.pad (match d.precision with
    | some n => text.take n
    | none => text)

/-- The sign in front of a number. -/
def sign (d : Directive) (negative : Bool) : Bytes :=
  if negative then [45] else if d.plus then [43] else if d.space then [32] else []

/-- The digits of a number, not less than asked for; zero has none if none are asked for. -/
def atLeast (d : Directive) (digits : Bytes) : Bytes :=
  match d.precision with
  | none => digits
  | some n => if n = 0 && digits == [48] then [] else padStart 48 n digits

/-- A signed integer. -/
def formatInt (d : Directive) (n : Int) : Bytes :=
  d.padNumber (d.zero && d.precision.isNone) (d.sign (n < 0)) (d.atLeast (digits n.natAbs))

/-- A number without a sign, in the base that the conversion asks for. -/
def formatNat (d : Directive) (n : Nat) : Bytes :=
  let base := match d.conversion with
    | 'o' => 8
    | 'x' | 'X' => 16
    | _ => 10
  let shown := digitsIn base n
  let shown := if d.conversion == 'X' then shown.map toUpper else shown
  let shown := d.atLeast shown
  let shown := if d.alternative && base = 8 && shown.head? != some 48 then 48 :: shown else shown
  let front := if d.alternative && base = 16 && n != 0 then [48, byte d.conversion] else []
  d.padNumber (d.zero && d.precision.isNone) front shown

/-! ### Fractions -/

/-- A quotient rounded to the nearest integer, a tie to the even one. -/
def roundDiv (n d : Nat) : Nat :=
  let q := n / d
  let twice := 2 * (n % d)
  if twice < d then q else if d < twice then q + 1 else if q % 2 = 0 then q else q + 1

/-- A positive fraction rounded to so many binary digits, as a fraction. -/
def roundBinary (bits n d : Nat) : Nat × Nat :=
  if n = 0 || d = 0 then (0, 1)
  else
    -- The quotient is between these powers of two.
    let shift : Int := (bits : Int) - ((Nat.log2 n : Int) - Nat.log2 d)
    let scaled (shift : Int) : Nat × Nat := (n * power 2 shift.toNat, d * power 2 (-shift).toNat)
    let (a, b) := scaled shift
    let shift := if power 2 bits ≤ a / b then shift - 1 else shift
    let (a, b) := scaled shift
    let mantissa := roundDiv a b
    (mantissa * power 2 (-shift).toNat, power 2 shift.toNat)

/-- A positive fraction with so many decimal places. -/
def fixed (alternative : Bool) (places n d : Nat) : Bytes :=
  let shown := padStart 48 (places + 1) (digits (roundDiv (n * power 10 places) d))
  let whole := shown.length - places
  shown.take whole ++ (if 0 < places || alternative then [46] else []) ++ shown.drop whole

/-- The exponent of the first decimal digit of a positive fraction. -/
def exponentOf (n d : Nat) : Int :=
  let guess : Int := ((digits n).length : Int) - (digits d).length
  -- The exponent is the guess or one less.
  if n * power 10 (-guess).toNat < d * power 10 guess.toNat then guess - 1 else guess

/-- The digits of a positive fraction, the first one in front of the point, and their exponent. -/
def scientificDigits (places n d : Nat) : Bytes × Int :=
  if n = 0 then (List.replicate (places + 1) 48, 0)
  else
    let e := exponentOf n d
    let shift : Int := places - e
    let shown := digits (roundDiv (n * power 10 shift.toNat) (d * power 10 (-shift).toNat))
    if places + 1 < shown.length then (shown.take (places + 1), e + 1) else (shown, e)

/-- An exponent, with a sign and two digits at least. -/
def shownExponent (letter : UInt8) (e : Int) : Bytes :=
  letter :: (if e < 0 then 45 else 43) :: padStart 48 2 (digits e.natAbs)

/-- A number without the zeros at the end of its decimal places. -/
def trimPlaces (text : Bytes) : Bytes :=
  if text.contains 46 then
    let kept := text.reverse.dropWhile (· == 48)
    (if kept.head? = some 46 then kept.drop 1 else kept).reverse
  else text

/-- The digits of a positive fraction in the form that the conversion asks for. -/
def fractionDigits (d : Directive) (n m : Nat) : Bytes :=
  let places := d.precision.getD 6
  let letter (c : Char) : UInt8 := byte (if d.conversion.isUpper then c.toUpper else c)
  let scientific (places : Nat) : Bytes × Bytes :=
    let (shown, e) := scientificDigits places n m
    (shown.take 1 ++ (if 0 < places || d.alternative then [46] else []) ++ shown.drop 1,
      shownExponent (letter 'e') e)
  match d.conversion.toLower with
  | 'e' =>
    let (front, behind) := scientific places
    front ++ behind
  | 'g' =>
    let wanted := max places 1
    let (_, e) := scientificDigits (wanted - 1) n m
    if -4 ≤ e && e < wanted then
      let shown := fixed d.alternative (wanted - 1 - e).toNat n m
      if d.alternative then shown else trimPlaces shown
    else
      let (front, behind) := scientific (wanted - 1)
      (if d.alternative then front else trimPlaces front) ++ behind
  | _ => fixed d.alternative places n m

/-- A fraction, which is rounded to so many binary digits before. -/
def formatFraction (d : Directive) (bits : Nat) (x : Decimal) : Bytes :=
  let (n, m) := roundBinary bits x.numerator.natAbs x.denominator
  d.padNumber d.zero (d.sign (x.numerator < 0)) (d.fractionDigits n m)

end Directive

/-! ### Escapes -/

/-- The byte of an escape with one letter. -/
def letterEscape? (b : UInt8) : Option UInt8 :=
  match charOf b with
  | 'a' => some 7
  | 'b' => some 8
  | 'e' => some 27
  | 'f' => some 12
  | 'n' => some 10
  | 'r' => some 13
  | 't' => some 9
  | 'v' => some 11
  | _ => none

end JobShell.Utility
