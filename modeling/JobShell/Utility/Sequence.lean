import JobShell.Utility.Format
import JobShell.Utility.Options

/-! # Sequences of numbers

`seq` writes numbers from a first to a last one. They are counted exactly, and written with as many decimal
places as the first number and the step have. -/

namespace JobShell.Utility

open Printer

/-- A sequence of numbers, over one denominator; one without a last number does not end. -/
structure Sequence where
  first : Int
  step : Int
  last : Option Int
  denominator : Nat
  places : Nat
deriving Repr

/-- How many numbers a sequence has, if it ends. -/
def Sequence.count? (s : Sequence) : Option Nat :=
  match s.last with
  | none => if s.step < 0 then some 0 else none
  | some last =>
    if 0 < s.step then some (if last < s.first then 0 else ((last - s.first) / s.step + 1).toNat)
    else some (if s.first < last then 0 else ((s.first - last) / -s.step + 1).toNat)

/-- How numbers are written. -/
structure SequenceStyle where
  separator : Bytes := [10]
  /-- The width that zeros in front fill. -/
  width : Nat := 0
  /-- What stands before, how the number is written, and what stands behind. -/
  format : Option (Bytes × Directive × Bytes) := none
deriving Repr

/-- One number of a sequence. -/
def Sequence.show (s : Sequence) (style : SequenceStyle) (i : Nat) : Bytes :=
  let value := s.first + s.step * i
  match style.format with
  | some (before, d, behind) => before ++ d.formatFraction 64 ⟨value, s.denominator, s.places⟩ ++ behind
  | none =>
    let d : Directive :=
      { zero := true, width := style.width, precision := some s.places, conversion := 'f' }
    d.padNumber true (d.sign (value < 0)) (Directive.fixed false s.places value.natAbs s.denominator)

/-- Writes a sequence, a block at a time. -/
def writeSequence (s : Sequence) (style : SequenceStyle) : Printer Unit := do
  let count := s.count?
  repeated (fun (i : Nat) => do
    let here := (count.map fun n => min (n - i) 256).getD 256
    if here = 0 then return .inr ()
    else
      let shown := (List.range' i here).flatMap fun j =>
        s.show style j ++ (if some (j + 1) = count then [] else style.separator)
      say shown
      return .inl (i + here)) 0
  if count != some 0 then say [10]

/-- Reads one number of the arguments. -/
def readOperand? (text : Bytes) : Option Decimal :=
  match Decimal.take? text with
  | some (x, []) => some x
  | _ => none

/-- Whether a text stands for what is larger than all numbers. -/
def isInfinite (text : Bytes) : Bool :=
  let name := (if text.head? = some 43 then text.tail else text).map toLower
  name == ascii "inf" || name == ascii "infinity"

/-- Numbers over one denominator. -/
def sequenceOf (first step : Decimal) (last : Option Decimal) : Sequence :=
  let common := first.denominator * step.denominator * (last.map (·.denominator)).getD 1
  let widen (x : Decimal) : Int := x.numerator * (common / x.denominator : Nat)
  ⟨widen first, widen step, last.map widen, common, max first.places step.places⟩

/-- The width of a number as it was written. -/
def writtenWidth (places : Nat) (x : Decimal) : Nat :=
  (Directive.fixed false places x.numerator.natAbs x.denominator).length + (if x.numerator < 0 then 1 else 0)

/-- Reads a format with one directive for a fraction. -/
def readSequenceFormat (text : Bytes) : Except Bytes (Bytes × Directive × Bytes) :=
  let before := text.takeWhile (· != 37)
  match text.dropWhile (· != 37) with
  | [] => .error (ascii "format " ++ quoted text ++ ascii " has no % directive")
  | _ :: rest =>
    let flags := rest.takeWhile fun b => "-+ #0'".toList.contains (charOf b)
    let d := flags.foldl (fun (d : Directive) b => match charOf b with
      | '-' => { d with left := true }
      | '+' => { d with plus := true }
      | ' ' => { d with space := true }
      | '#' => { d with alternative := true }
      | '0' => { d with zero := true }
      | _ => d) {}
    let (width, _, rest) := takeDigits 10 (rest.drop flags.length) 0 0
    let (precision, rest) := match rest with
      | 46 :: rest =>
        let (value, _, rest) := takeDigits 10 rest 0 0
        (some value, rest)
      | _ => (none, rest)
    let rest := if rest.head? = some 76 then rest.drop 1 else rest
    match rest with
    | [] => .error (ascii "format " ++ quoted text ++ ascii " ends in %")
    | b :: behind =>
      if !"efgaEFGA".toList.contains (charOf b) then
        .error (ascii "format " ++ quoted text ++ ascii " has unknown %" ++ [b] ++ ascii " directive")
      else if behind.contains 37 then
        .error (ascii "format " ++ quoted text ++ ascii " has too many % directives")
      else .ok (before, { d with width, precision, conversion := charOf b }, behind)

def seqRows : List OptionRow :=
  [⟨some 'f', ["format"], .value⟩, ⟨some 's', ["separator"], .value⟩, ⟨some 'w', ["equal-width"], .nothing⟩]

/-- Whether an argument is a negative number, which is no option. -/
def isNegative (arg : Bytes) : Bool :=
  match arg with
  | 45 :: b :: _ => isDigit b || b == 46
  | _ => false

/-- The arguments of `seq`; a negative number ends the options. -/
def seqArguments (args : List Bytes) : Arguments :=
  let front := args.takeWhile fun arg => !isNegative arg
  let a := Arguments.readInFront seqRows front
  { a with operands := a.operands ++ args.drop front.length }

/-- Reads a number, or ends the program. -/
def numberOperand (text : Bytes) : Printer Decimal :=
  match readOperand? text with
  | some x => return x
  | none =>
    if text.map toLower = ascii "nan" then
      misuse 1 (ascii "invalid 'not-a-number' argument: " ++ quoted text)
    else misuse 1 (ascii "invalid floating point argument: " ++ quoted text)

def seq : Utility := printing 1 fun args => do
  let a := seqArguments args
  a.check 1
  match a.operands with
  | [] => misuse 1 (ascii "missing operand")
  | operands =>
    if let some extra := operands[3]? then misuse 1 (ascii "extra operand " ++ quoted extra)
    let format ← match a.value? "f" with
      | none => pure none
      | some text =>
        match readSequenceFormat text with
        | .ok format => pure (some format)
        | .error fault => die 1 fault
    let ends := !isInfinite (operands.getLastD [])
    let numbers ← (if ends then operands else operands.dropLast).mapM numberOperand
    let one : Decimal := ⟨1, 1, 0⟩
    let last := if ends then numbers.getLast? else none
    let (first, step) := match if ends then numbers.dropLast else numbers with
      | first :: step :: _ => (first, step)
      | [first] => (first, one)
      | [] => (one, one)
    if step.numerator = 0 then
      misuse 1 (ascii "invalid Zero increment value: " ++ quoted (operands[1]?.getD []))
    if format.isSome && a.has "w" then
      misuse 1 (ascii "format string may not be specified when printing equal width strings")
    let s := sequenceOf first step last
    let widthOf (x : Decimal) : Nat := writtenWidth s.places x
    let width := if a.has "w" then max (widthOf first) ((last.map widthOf).getD 0) else 0
    writeSequence s { separator := (a.value? "s").getD [10], width, format }
    return 0

end JobShell.Utility
