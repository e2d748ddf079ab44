import JobShell.Script.Syntax
import JobShell.Utility.Numeral

/-! # Arithmetic

Expressions over integers of 64 bits, as in `$(( ))`. The variables of the script can be used and set in
them; what is not needed for the result is read, but not computed. -/

namespace JobShell.Script

open Utility (ascii charOf isDigit isSpace takeDigits digitValue?)

/-- Why an expression has no value. -/
inductive ArithmeticFault
  | expecting (what : String)
  | divisionByZero
  /-- A variable is no number. -/
  | notNumber (text : Bytes)
deriving DecidableEq, Repr

/-- What is said about an expression that has no value. -/
def ArithmeticFault.message (expression : Bytes) : ArithmeticFault → Bytes
  | expecting what =>
    ascii "arithmetic expression: expecting " ++ ascii what ++ ascii ": \"" ++ expression ++ ascii "\""
  | divisionByZero => ascii "arithmetic expression: division by zero: \"" ++ expression ++ ascii "\""
  | notNumber text => ascii "Illegal number: " ++ text

/-- A sign of an expression. -/
inductive ArithmeticToken
  | number (n : Int)
  | name (text : Bytes)
  | operator (text : String)
  | finish
deriving DecidableEq, Repr

/-- An integer of 64 bits. -/
def wrap (n : Int) : Int :=
  Int.bmod n 18446744073709551616

/-- The nearest integer of 64 bits. -/
def clamp (n : Int) : Int :=
  if n > Utility.maxSigned then Utility.maxSigned
  else if n < -(Utility.maxSigned : Int) - 1 then -(Utility.maxSigned : Int) - 1
  else n

/-- Reads a number in base 10, in base 8 behind a zero, or in base 16 behind `0x`. -/
def takeNumber (text : Bytes) : Int × Bytes :=
  let isHex := match text with
    | 48 :: x :: d :: _ => (x == 120 || x == 88) && (digitValue? 16 d).isSome
    | _ => false
  let (value, _, rest) :=
    if isHex then takeDigits 16 (text.drop 2) 0 0
    else if text.head? = some 48 then takeDigits 8 text 0 0
    else takeDigits 10 text 0 0
  (clamp value, rest)

/-- The number that the value of a variable is; nothing counts as zero. -/
def variableNumber (text : Bytes) : Except ArithmeticFault Int :=
  let (negative, rest) := Utility.takeSign (text.dropWhile isSpace)
  if rest.head?.any isDigit then
    let (n, behind) := takeNumber rest
    if behind.all isSpace then .ok (if negative then wrap (-n) else n) else .error (.notNumber text)
  else if text.all isSpace then .ok 0
  else .error (.notNumber text)

/-- The operators, the longer ones first. -/
def arithmeticOperators : List String :=
  ["<<=", ">>=", "&&", "||", "==", "!=", "<=", ">=", "<<", ">>", "+=", "-=", "*=", "/=", "%=", "&=", "|=",
   "^=",
   "+", "-", "*", "/", "%", "<", ">", "=", "!", "~", "&", "|", "^", "?", ":", "(", ")"]

/-- What is left of an expression, and what was set by it. -/
structure ArithmeticState where
  rest : Bytes
  /-- The value of a variable of the script. -/
  value : Bytes → Bytes
  /-- The variables that were set, the last one first. -/
  set : List (Bytes × Bytes) := []

/-- A reader of an expression. -/
abbrev Arithmetic := StateT ArithmeticState (Except ArithmeticFault)

namespace Arithmetic

/-- The next sign, and what is behind it. -/
def token (text : Bytes) : Except ArithmeticFault (ArithmeticToken × Bytes) :=
  let text := text.dropWhile isSpace
  match text with
  | [] => .ok (.finish, [])
  | b :: _ =>
    if isDigit b then
      let (n, rest) := takeNumber text
      .ok (.number n, rest)
    else if isNameStart b then .ok (.name (text.takeWhile isNameByte), text.dropWhile isNameByte)
    else
      match arithmeticOperators.find? fun o => (ascii o).isPrefixOf text with
      | some o => .ok (.operator o, text.drop (ascii o).length)
      | none => .error (.expecting "EOF")

/-- The next sign, which stays there. -/
def peek : Arithmetic ArithmeticToken := do
  match token (← get).rest with
  | .ok (t, _) => return t
  | .error e => throw e

/-- Goes on behind the next sign. -/
def skip : Arithmetic Unit := do
  let s ← get
  match token s.rest with
  | .ok (_, rest) => StateT.set { s with rest }
  | .error e => throw e

/-- The number that a variable is. -/
def valueOf (name : Bytes) : Arithmetic Int := do
  let s ← get
  let text := match s.set.find? (·.1 == name) with
    | some v => v.2
    | none => s.value name
  match variableNumber text with
  | .ok n => return n
  | .error e => throw e

/-- Sets a variable. -/
def assign (name : Bytes) (n : Int) : Arithmetic Unit :=
  modify fun s => { s with set := (name, (Text.ofInt n).encode) :: s.set }

/-- The operators between two values, those that bind least first. -/
def levels : List (List String) :=
  [["|"], ["^"], ["&"], ["==", "!="], ["<", "<=", ">", ">="], ["<<", ">>"], ["+", "-"], ["*", "/", "%"]]

/-- Bits of two integers of 64 bits put together. -/
def bits (f : Nat → Nat → Nat) (a b : Int) : Int :=
  wrap (f (a % 18446744073709551616).toNat (b % 18446744073709551616).toNat : Nat)

/-- Two values put together. -/
def compute (operator : String) (a b : Int) : Except ArithmeticFault Int :=
  let truth (p : Bool) : Except ArithmeticFault Int := .ok (if p then 1 else 0)
  match operator with
  | "|" => .ok (bits Nat.lor a b)
  | "^" => .ok (bits Nat.xor a b)
  | "&" => .ok (bits Nat.land a b)
  | "==" => truth (a == b)
  | "!=" => truth (a != b)
  | "<" => truth (a < b)
  | "<=" => truth (a ≤ b)
  | ">" => truth (b < a)
  | ">=" => truth (b ≤ a)
  | "<<" => .ok (wrap (a * (Utility.power 2 (b % 64).toNat : Nat)))
  | ">>" => .ok (a / (Utility.power 2 (b % 64).toNat : Nat))
  | "+" => .ok (wrap (a + b))
  | "-" => .ok (wrap (a - b))
  | "*" => .ok (wrap (a * b))
  | "/" => if b = 0 then .error .divisionByZero else .ok (wrap (a.tdiv b))
  | "%" => if b = 0 then .error .divisionByZero else .ok (wrap (a.tmod b))
  | _ => .ok b

/-- The operator of an assignment, without its equals sign. -/
def assignment? : ArithmeticToken → Option String
  | .operator "=" => some ""
  | .operator o =>
    if ["<<=", ">>=", "+=", "-=", "*=", "/=", "%=", "&=", "|=", "^="].contains o then
      some ((o.dropEnd 1).toString)
    else none
  | _ => none

/-- Whether a value counts as true. -/
def isTrue (n : Int) : Bool := n != 0

mutual

/-- Reads a whole expression, which may be an assignment. -/
def whole (needed : Bool) : Nat → Arithmetic Int
  | 0 => return 0
  | fuel + 1 => do
    let before ← get
    match ← peek with
    | .name name =>
      skip
      match assignment? (← peek) with
      | some operator =>
        skip
        let n ← whole needed fuel
        if !needed then return n
        else
          let n ← if operator.isEmpty then pure n else
            match compute operator (← valueOf name) n with
            | .ok n => pure n
            | .error e => throw e
          assign name n
          return n
      | none =>
        set before
        choice needed fuel
    | _ => choice needed fuel

/-- Reads an expression with a question mark, or a simpler one. -/
def choice (needed : Bool) : Nat → Arithmetic Int
  | 0 => return 0
  | fuel + 1 => do
    let test ← either needed fuel
    if (← peek) = .operator "?" then
      skip
      let yes ← whole (needed && isTrue test) fuel
      if (← peek) != .operator ":" then throw (.expecting "':'")
      skip
      let no ← choice (needed && !isTrue test) fuel
      return if isTrue test then yes else no
    else return test

/-- Reads an expression of which one part has to be true. -/
def either (needed : Bool) : Nat → Arithmetic Int
  | 0 => return 0
  | fuel + 1 => do
    let a ← both needed fuel
    if (← peek) = .operator "||" then
      skip
      let b ← either (needed && !isTrue a) fuel
      return if isTrue a || isTrue b then 1 else 0
    else return a

/-- Reads an expression of which all parts have to be true. -/
def both (needed : Bool) : Nat → Arithmetic Int
  | 0 => return 0
  | fuel + 1 => do
    let a ← binary needed levels fuel
    if (← peek) = .operator "&&" then
      skip
      let b ← both (needed && isTrue a) fuel
      return if isTrue a && isTrue b then 1 else 0
    else return a

/-- Reads an expression of operators between values. -/
def binary (needed : Bool) (left : List (List String)) : Nat → Arithmetic Int
  | 0 => return 0
  | fuel + 1 => do
    match left with
    | [] => primary needed fuel
    | operators :: rest =>
      let a ← binary needed rest fuel
      chain needed operators rest a fuel

/-- Reads the operators behind a value, and their values. -/
def chain (needed : Bool) (operators : List String) (rest : List (List String)) (a : Int) :
    Nat → Arithmetic Int
  | 0 => return a
  | fuel + 1 => do
    match ← peek with
    | .operator o =>
      if operators.contains o then
        skip
        let b ← binary needed rest fuel
        let a ← if !needed then pure a else
          match compute o a b with
          | .ok n => pure n
          | .error e => throw e
        chain needed operators rest a fuel
      else return a
    | _ => return a

/-- Reads a value with the operators in front of it. -/
def primary (needed : Bool) : Nat → Arithmetic Int
  | 0 => return 0
  | fuel + 1 => do
    match ← peek with
    | .number n =>
      skip
      return n
    | .name name =>
      skip
      if needed then valueOf name else return 0
    | .operator "(" =>
      skip
      let n ← whole needed fuel
      if (← peek) != .operator ")" then throw (.expecting "')'")
      skip
      return n
    | .operator "!" =>
      skip
      let n ← primary needed fuel
      return if isTrue n then 0 else 1
    | .operator "~" =>
      skip
      let n ← primary needed fuel
      return -n - 1
    | .operator "-" =>
      skip
      let n ← primary needed fuel
      return wrap (-n)
    | .operator "+" =>
      skip
      primary needed fuel
    | _ => throw (.expecting "primary")

end

/-- The value of an expression, and the variables that it sets, the last one first. -/
def evaluate (value : Bytes → Bytes) (text : Bytes) :
    Except ArithmeticFault (Int × List (Bytes × Bytes)) := do
  let fuel := 16 * text.length + 64
  if text.all isSpace then return (0, [])
  let (n, s) ← (whole true fuel).run { rest := text, value }
  match ← token s.rest with
  | (.finish, _) => return (n, s.set)
  | _ => throw (.expecting "EOF")

end Arithmetic

end JobShell.Script
