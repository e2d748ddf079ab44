import JobShell.Script.Scope

/-! # The builtin `test`

How the builtin reads its arguments: by precedence, where up to four arguments are looked at first as a whole.
What is asked about files is the same as in the program of the name. -/

namespace JobShell.Script

open Utility (ascii charOf)

/-- A reader of the arguments of `test`: those that are left, the current one first. -/
abbrev Test := StateT (List Bytes) Run

namespace Test

/-- What an argument means at its place. -/
inductive Meaning
  | operand
  /-- A question about the next argument. -/
  | unary
  /-- A relation between the arguments around it. -/
  | binary
  | negation
  | conjunction
  | disjunction
  | opening
  | closing
  | nothing
deriving DecidableEq, Repr

/-- The relations of texts. -/
def textRelations : List String := ["=", "!=", "<", ">"]

/-- Whether an argument is a relation. -/
def isRelation (arg : Bytes) : Bool :=
  (textRelations.any fun r => ascii r == arg) || (Utility.numberRelation? arg).isSome ||
    (Utility.fileRelation? arg).isSome

/-- What an argument means by itself. -/
def meaningOf (arg : Bytes) : Meaning :=
  if isRelation arg then .binary
  else
    match arg.map charOf with
    | ['!'] => .negation
    | ['-', 'a'] => .conjunction
    | ['-', 'o'] => .disjunction
    | ['('] => .opening
    | [')'] => .closing
    | ['-', c] => if "rwxefdcbpugkstznhOGLS".toList.contains c then .unary else .operand
    | _ => .operand

/-- What the first of several arguments means. A question without something to ask about is an operand. -/
def meaning : List Bytes → Meaning
  | [] => .nothing
  | arg :: rest =>
    match meaningOf arg, rest with
    | .unary, [] => .operand
    | .unary, next :: _ :: _ => if isRelation next then .operand else .unary
    | .opening, [] => .operand
    | m, _ => m

/-- The expression makes no sense. -/
def fault {α : Type} (operator message : Bytes) : Test α :=
  StateT.lift (Run.fail (if operator.isEmpty then message else operator ++ ascii ": " ++ message))

/-- The number that an argument is. -/
def number (text : Bytes) : Test Int := do
  let trimmed := Utility.trimStart text
  let trimmed := (trimmed.reverse.dropWhile Utility.isSpace).reverse
  match Utility.readInt? trimmed with
  | some n => return n
  | none => StateT.lift (Run.fail (ascii "Illegal number: " ++ text))

/-- Goes on with the next argument. -/
def advance : Test Unit :=
  modify List.tail

/-- The current argument. -/
def current : Test Bytes := do
  return (← get).headD []

/-- Asks a question about an argument. -/
def ask (operator : Bytes) : Test Bool := do
  advance
  match ← get with
  | [] => fault operator (ascii "argument expected")
  | word :: _ =>
    match charOf (operator.getLastD 0) with
    | 'z' => return word.isEmpty
    | 'n' => return !word.isEmpty
    | 't' =>
      let d ← number word
      if d < 0 then return false else StateT.lift (Run.perform (.isTerminal d.toNat))
    | question => StateT.lift (Run.lift (Utility.askFile question word))

/-- Whether a relation holds between two arguments. -/
def relate (a operator b : Bytes) : Test Bool := do
  match Utility.numberRelation? operator, Utility.fileRelation? operator with
  | some relation, _ =>
    let x ← number a
    let y ← number b
    return relation x y
  | none, some relation =>
    if relation = .same then StateT.lift (Run.lift (Utility.compareFiles relation a b)) else return false
  | none, none =>
    match operator.map charOf with
    | ['='] => return a == b
    | ['<'] => return Utility.compareBytes a b == .lt
    | ['>'] => return Utility.compareBytes a b == .gt
    | _ => return a != b

mutual

/-- Reads expressions of which one has to hold. -/
def either : Nat → Meaning → Test Bool
  | 0, _ => return false
  | fuel + 1, m => do
    let holds ← both fuel m
    if meaning (← get).tail = .disjunction then
      advance
      advance
      let more ← either fuel (meaning (← get))
      return holds || more
    else return holds

/-- Reads expressions of which all have to hold. -/
def both : Nat → Meaning → Test Bool
  | 0, _ => return false
  | fuel + 1, m => do
    let holds ← negatable fuel m
    if meaning (← get).tail = .conjunction then
      advance
      advance
      let more ← both fuel (meaning (← get))
      return holds && more
    else return holds

/-- Reads an expression that may be negated. -/
def negatable : Nat → Meaning → Test Bool
  | 0, _ => return false
  | fuel + 1, m => do
    if m = .negation then
      let next := meaning (← get).tail
      if next != .nothing then advance
      return !(← negatable fuel next)
    else primary fuel m

/-- Reads an expression without other ones. -/
def primary : Nat → Meaning → Test Bool
  | 0, _ => return false
  | fuel + 1, m => do
    match m with
    | .nothing => return false
    | .opening =>
      advance
      let next := meaning (← get)
      if next = .closing then return false
      else
        let holds ← either fuel next
        advance
        if meaning (← get) != .closing then fault [] (ascii "closing paren expected")
        else return holds
    | .unary => ask (← current)
    | _ =>
      let a ← current
      if meaning (← get).tail = .binary then
        advance
        let operator ← current
        advance
        match ← get with
        | [] => fault operator (ascii "argument expected")
        | b :: _ => relate a operator b
      else return !a.isEmpty

end

/-- Reads a whole expression; `negated` turns its outcome round. -/
def whole (negated : Bool) : Nat → List Bytes → Run Bool
  | 0, _ => return false
  | fuel + 1, args => do
    let plain (asOperand : Bool) (args : List Bytes) : Run Bool := do
      let m := if asOperand then .operand else meaning args
      let (holds, left) ← (either (8 * args.length + 16) m).run args
      match left with
      | extra :: _ :: _ => Run.fail (extra ++ ascii ": unexpected operator")
      | _ => return holds != negated
    match args with
    | [] => return negated
    | first :: rest =>
      if args.length = 3 && rest.head?.any isRelation then plain true args
      else if args.length = 3 || args.length = 4 then
        if first = [40] && args.getLast? = some [41] then plain false (args.tail.dropLast)
        else if first = [33] then whole (!negated) fuel rest
        else plain false args
      else plain false args

end Test

/-- The builtins `test` and `[`. -/
def testBuiltin (argv : List Bytes) : Run Int := do
  let needsBracket := (argv.headD []).head? = some 91
  if needsBracket && (argv.getLastD []).head? != some 93 then Run.fail (ascii "missing ]")
  else
    let args := if needsBracket then argv.tail.dropLast else argv.tail
    if args.isEmpty then return 1
    else
      let holds ← Test.whole false 8 args
      return if holds then 0 else 1

end JobShell.Script
