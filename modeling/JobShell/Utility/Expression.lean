import JobShell.Utility.Options
import JobShell.Utility.Regex

/-! # Expressions

`expr` computes with its arguments: with numbers of any size, with texts, and with regular expressions. What
is not needed for the result is read, but not computed. -/

namespace JobShell.Utility

/-- A value of an expression. -/
inductive Value
  | number (n : Int)
  | text (bytes : Bytes)
deriving DecidableEq, Repr

namespace Value

def toBytes : Value → Bytes
  | number n => (Text.ofInt n).encode
  | text bytes => bytes

/-- The number that a value is or looks like. -/
def toInt? : Value → Option Int
  | number n => some n
  | text (45 :: digits) => (readNat? digits).map fun n => -(n : Int)
  | text digits => (readNat? digits).map Int.ofNat

/-- Whether a value counts as nothing: it is empty, or zero. -/
def isNothing : Value → Bool
  | number n => n = 0
  | text [] => true
  | text bytes => bytes != [45] && ((if bytes.head? = some 45 then bytes.tail else bytes).all (· == 48))

/-- Zero or one. -/
def ofBool (b : Bool) : Value := number (if b then 1 else 0)

end Value

/-- What is wrong with an expression. -/
inductive ExpressionFault
  | missingAfter (arg : Bytes)
  | unexpected (arg : Bytes)
  | closingAfter (arg : Bytes)
  | closingInstead (arg : Bytes)
  | unexpectedClosing
  | notInteger
  | divisionByZero
  | badRegex (fault : Regex.Fault)
deriving DecidableEq, Repr

def ExpressionFault.message : ExpressionFault → Bytes
  | missingAfter arg => ascii "syntax error: missing argument after " ++ quoted arg
  | unexpected arg => ascii "syntax error: unexpected argument " ++ quoted arg
  | closingAfter arg => ascii "syntax error: expecting ')' after " ++ quoted arg
  | closingInstead arg => ascii "syntax error: expecting ')' instead of " ++ quoted arg
  | unexpectedClosing => ascii "syntax error: unexpected ')'"
  | notInteger => ascii "non-integer argument"
  | divisionByZero => ascii "division by zero"
  | badRegex fault => fault.message

/-- Where a reader of an expression is: the arguments behind it, the last one first, and those in front. -/
structure Cursor where
  behind : List Bytes
  left : List Bytes

/-- A reader of an expression. -/
abbrev Expression := StateT Cursor (Except ExpressionFault)

namespace Expression

/-- Goes on behind the next argument if it is this one. -/
def takes (arg : String) : Expression Bool := do
  match (← get).left with
  | next :: left =>
    if next = ascii arg then
      modify fun c => { behind := next :: c.behind, left }
      return true
    else return false
  | [] => return false

/-- The next argument, which has to be there. -/
def take : Expression Bytes := do
  let c ← get
  match c.left with
  | next :: left =>
    set { behind := next :: c.behind, left : Cursor }
    return next
  | [] => throw (.missingAfter (c.behind.headD []))

/-- The operator among several that comes next, if one does. -/
def takesOne : List String → Expression (Option String)
  | [] => return none
  | arg :: rest => do if ← takes arg then return some arg else takesOne rest

/-- What a text is by a regular expression: the first group, or how long the match is. -/
def matched (text pattern : Value) : Expression Value :=
  match Regex.ofBytes pattern.toBytes with
  | .error fault => throw (.badRegex fault)
  | .ok (r, groups) =>
    match r.matchStart? text.toBytes with
    | none => return if groups = 0 then .number 0 else .text []
    | some (size, found) =>
      return if groups = 0 then .number size
        else .text (((found.find? (·.1 == 1)).map (·.2)).getD [])

/-- A part of a text, from a position on and so many bytes long. -/
def part (text : Value) (start size : Option Int) : Value :=
  match start, size with
  | some start, some size =>
    if start ≤ 0 || size ≤ 0 then .text []
    else .text ((text.toBytes.drop (start.toNat - 1)).take size.toNat)
  | _, _ => .text []

/-- The first position in a text of one of several bytes, or zero. -/
def position (text set : Value) : Value :=
  match text.toBytes.findIdx? set.toBytes.contains with
  | some i => .number (i + 1 : Nat)
  | none => .number 0

/-- Two numbers put together. -/
def compute (operator : String) (a b : Value) : Expression Value :=
  match a.toInt?, b.toInt? with
  | some a, some b =>
    match operator with
    | "+" => return .number (a + b)
    | "-" => return .number (a - b)
    | "*" => return .number (a * b)
    | _ =>
      if b = 0 then throw .divisionByZero
      else if operator = "/" then return .number (a.tdiv b)
      else return .number (a.tmod b)
  | _, _ => throw .notInteger

/-- Two values compared, as numbers if both look like numbers. -/
def compare (operator : String) (a b : Value) : Value :=
  let order := match a.toInt?, b.toInt? with
    | some a, some b => Ord.compare a b
    | _, _ => compareBytes a.toBytes b.toBytes
  .ofBool (match operator with
    | "<" => order == .lt
    | "<=" => order != .gt
    | "=" | "==" => order == .eq
    | "!=" => order != .eq
    | ">=" => order != .lt
    | _ => order == .gt)

/-- The operators between two values, those that bind least first. -/
def operators : Nat → List String
  | 0 => ["|"]
  | 1 => ["&"]
  | 2 => ["<", "<=", "=", "==", "!=", ">=", ">"]
  | 3 => ["+", "-"]
  | 4 => ["*", "/", "%"]
  | _ => [":"]

/-- A value that is not needed. -/
def unneeded : Value := .number 0

/-- Two values put together by an operator. -/
def combine (needed : Bool) (operator : String) (a b : Value) : Expression Value :=
  match operator with
  | "|" => return if !a.isNothing then a else if b.isNothing then .number 0 else b
  | "&" => return if a.isNothing || b.isNothing then .number 0 else a
  | _ =>
    if !needed then return unneeded
    else
      match operator with
      | ":" => matched a b
      | "+" | "-" | "*" | "/" | "%" => compute operator a b
      | _ => return compare operator a b

/-- Whether the right side of an operator is needed. -/
def needsRight (needed : Bool) (operator : String) (a : Value) : Bool :=
  match operator with
  | "|" => needed && a.isNothing
  | "&" => needed && !a.isNothing
  | _ => needed

mutual

/-- Reads an expression of operators that bind as strongly as asked for. -/
def level (n : Nat) (needed : Bool) : Nat → Expression Value
  | 0 => return unneeded
  | fuel + 1 => do
    if 5 < n then word needed fuel
    else
      let first ← level (n + 1) needed fuel
      chain n needed first fuel

/-- Reads what stands behind the first value of an expression. -/
def chain (n : Nat) (needed : Bool) (a : Value) : Nat → Expression Value
  | 0 => return a
  | fuel + 1 => do
    match ← takesOne (operators n) with
    | none => return a
    | some operator =>
      let b ← level (n + 1) (needsRight needed operator a) fuel
      let a ← combine needed operator a b
      chain n needed a fuel

/-- Reads a value: a word, an expression in parentheses, or what a function gives. -/
def word (needed : Bool) : Nat → Expression Value
  | 0 => return unneeded
  | fuel + 1 => do
    if ← takes "+" then return .text (← take)
    else if ← takes "length" then
      let text ← word needed fuel
      return .number text.toBytes.length
    else if ← takes "match" then
      let text ← word needed fuel
      let pattern ← word needed fuel
      if needed then matched text pattern else return unneeded
    else if ← takes "index" then
      let text ← word needed fuel
      return position text (← word needed fuel)
    else if ← takes "substr" then
      let text ← word needed fuel
      let start ← word needed fuel
      let size ← word needed fuel
      return part text start.toInt? size.toInt?
    else if ← takes "(" then
      let value ← level 0 needed fuel
      let c ← get
      match c.left with
      | [] => throw (.closingAfter (c.behind.headD []))
      | next :: _ => if ← takes ")" then return value else throw (.closingInstead next)
    else if ← takes ")" then throw .unexpectedClosing
    else return .text (← take)

end

/-- The value of the arguments. -/
def ofArguments (args : List Bytes) : Except ExpressionFault Value := do
  let (value, c) ← (level 0 true (16 * args.length + 16)).run ⟨[], args⟩
  match c.left with
  | [] => return value
  | extra :: _ => throw (.unexpected extra)

end Expression

def expr : Utility := printing 3 fun args => do
  match (if args.head? = some (ascii "--") then args.tail else args) with
  | [] => Printer.misuse 2 (ascii "missing operand")
  | args =>
    match Expression.ofArguments args with
    | .error fault => Printer.die 2 fault.message
    | .ok value =>
      Printer.say (value.toBytes ++ [10])
      return if value.isNothing then 1 else 0

end JobShell.Utility
