import JobShell.Utility.Numeral
import JobShell.Utility.Printer

/-! # Conditions

`test` says whether an expression holds. How an expression of up to four arguments is read depends on their
number; a longer one is read by precedence. The questions themselves stand by themselves, as a shell asks them
too. -/

namespace JobShell.Utility

/-! ### Questions -/

/-- Whether what a question asks about a file is so. -/
def holdsOfInfo (question : Char) (info : FileInfo) : Bool :=
  match question with
  | 'a' | 'e' => true
  | 'f' => info.kind == .file
  | 'd' => info.kind == .directory
  | 'p' => info.kind == .fifo
  | 'c' => info.kind == .device
  | 'L' | 'h' => info.kind == .link
  | 's' => 0 < info.size
  | 'r' => info.allowed / 4 % 2 == 1
  | 'w' => info.allowed / 2 % 2 == 1
  | 'x' => info.allowed % 2 == 1
  | 'u' => info.mode.land 0o4000 != 0
  | 'g' => info.mode.land 0o2000 != 0
  | 'k' => info.mode.land 0o1000 != 0
  | 'O' | 'G' => info.owned
  | _ => false

/-- The questions about files. -/
def fileQuestions : List Char := "aefdpcLhsrwxugkOGbSN".toList

/-- Asks a question about the file that a path leads to. -/
def askFile (question : Char) (path : Bytes) : Prog Bool := do
  let follows := question != 'L' && question != 'h'
  match ← Prog.perform (.service (.inspect path follows)) with
  | .ok info => return holdsOfInfo question info
  | .error _ => return false

/-- How two files can be compared. -/
inductive FileRelation
  | same
  | newer
  | older
deriving DecidableEq, Repr

/-- Compares two files. A file that is there counts as newer than one that is not. -/
def compareFiles (relation : FileRelation) (a b : Bytes) : Prog Bool := do
  let x ← Prog.perform (.service (.inspect a true))
  let y ← Prog.perform (.service (.inspect b true))
  match relation, x, y with
  | .same, .ok x, .ok y => return x.node.isSome && x.node == y.node
  | .newer, .ok _, .error _ => return true
  | .older, .error _, .ok _ => return true
  | _, _, _ => return false

/-- The relation of two numbers that an operator asks for. -/
def numberRelation? (operator : Bytes) : Option (Int → Int → Bool) :=
  let table : List (String × (Int → Int → Bool)) :=
    [("-eq", fun a b => a == b), ("-ne", fun a b => a != b), ("-lt", fun a b => a < b),
     ("-le", fun a b => a ≤ b), ("-gt", fun a b => b < a), ("-ge", fun a b => b ≤ a)]
  (table.find? fun r => ascii r.1 == operator).map (·.2)

/-- The relation of two files that an operator asks for. -/
def fileRelation? (operator : Bytes) : Option FileRelation :=
  if operator = ascii "-ef" then some .same
  else if operator = ascii "-nt" then some .newer
  else if operator = ascii "-ot" then some .older
  else none

/-! ### Expressions -/

/-- A reader of an expression: it has the arguments that are left, and may fail with a message. -/
abbrev Condition := StateT (List Bytes) (ExceptT Bytes Prog)

namespace Condition

/-- The expression cannot be read. -/
def fault {α : Type} (message : Bytes) : Condition α :=
  throw message

/-- There should be more arguments. -/
def beyond {α : Type} (all : List Bytes) : Condition α :=
  fault (ascii "missing argument after " ++ quoted (all.getLastD []))

/-- Makes a call. -/
def lift {α : Type} (p : Prog α) : Condition α :=
  fun s => ExceptT.mk do return .ok (← p, s)

/-- Goes on behind the next argument. -/
def advance : Condition Unit :=
  modify List.tail

/-- The next argument, which has to be there. -/
def next (all : List Bytes) : Condition Bytes := do
  match ← get with
  | [] => beyond all
  | arg :: _ => return arg

/-- An operator between two arguments. -/
def isBinary (arg : Bytes) : Bool :=
  [ascii "=", ascii "==", ascii "!="].contains arg || (numberRelation? arg).isSome ||
    (fileRelation? arg).isSome

/-- Whether an argument has the form of an operator in front of another one. -/
def isUnary (arg : Bytes) : Bool :=
  arg.head? == some 45 && arg.length = 2

/-- The number that an argument is. -/
def number (text : Bytes) : Condition Int :=
  let trimmed := trimStart text
  let trimmed := (trimmed.reverse.dropWhile isSpace).reverse
  match readInt? trimmed with
  | some n => return n
  | none => fault (ascii "invalid integer " ++ quoted text)

/-- One argument holds if it is not empty. -/
def one (all : List Bytes) : Condition Bool := do
  let arg ← next all
  advance
  return !arg.isEmpty

/-- An operator in front of an argument. -/
def unary (all : List Bytes) : Condition Bool := do
  let operator ← next all
  let question := charOf (operator.getLastD 0)
  if !(fileQuestions.contains question || question == 't' || question == 'n' || question == 'z') then
    fault (quoted operator ++ ascii ": unary operator expected")
  advance
  let word ← next all
  advance
  if question == 'n' then return !word.isEmpty
  else if question == 'z' then return word.isEmpty
  else if question == 't' then
    let d ← number word
    if d < 0 then return false else lift (Prog.perform (.isTerminal d.toNat))
  else lift (askFile question word)

/-- The number that stands at one side of an operator: itself, or the length of a text. -/
def side (isLength : Bool) (text : Bytes) : Condition Int :=
  if isLength then return text.length else number text

/-- An operator between two arguments, which may be lengths of texts. -/
def binary (all : List Bytes) (leftIsLength : Bool) : Condition Bool := do
  if leftIsLength then advance
  let left ← next all
  advance
  let operator ← next all
  advance
  let rightIsLength := (← get).length > 1 && (← get).head? == some (ascii "-l")
  if rightIsLength then advance
  let right ← next all
  advance
  match numberRelation? operator, fileRelation? operator with
  | some relation, _ =>
    let a ← side leftIsLength left
    let b ← side rightIsLength right
    return relation a b
  | none, some relation =>
    if leftIsLength || rightIsLength then fault (operator ++ ascii " does not accept -l")
    else lift (compareFiles relation left right)
  | none, none => return (left == right) == (operator != ascii "!=")

def two (all : List Bytes) : Condition Bool := do
  let first ← next all
  if first = ascii "!" then
    advance
    return !(← one all)
  else if isUnary first then unary all
  else beyond all

def bang : Bytes := ascii "!"
def opening : Bytes := ascii "("
def closing : Bytes := ascii ")"

mutual

/-- Reads an expression of which the number of arguments is known. -/
def sized (all : List Bytes) : Nat → Nat → Condition Bool
  | 0, _ => beyond all
  | fuel + 1, count => do
    let args ← get
    match count, args with
    | 0, _ => beyond all
    | 1, _ => one all
    | 2, _ => two all
    | 3, _ => three all fuel
    | 4, first :: rest =>
      if first = bang then
        advance
        return !(← three all fuel)
      else if first = opening && rest[2]? == some closing then
        advance
        let holds ← two all
        advance
        return holds
      else either all fuel
    | _, _ => either all fuel

/-- Reads an expression of three arguments. -/
def three (all : List Bytes) : Nat → Condition Bool
  | 0 => beyond all
  | fuel + 1 => do
    match ← get with
    | first :: middle :: rest =>
      if isBinary middle then binary all false
      else if first = bang then
        advance
        return !(← two all)
      else if first = opening && rest.head? == some closing then
        advance
        let holds ← one all
        advance
        return holds
      else if middle = ascii "-a" || middle = ascii "-o" then either all fuel
      else fault (quoted middle ++ ascii ": binary operator expected")
    | _ => beyond all

/-- Reads expressions with `-o` between them. -/
def either (all : List Bytes) : Nat → Condition Bool
  | 0 => beyond all
  | fuel + 1 => do
    let holds ← both all fuel
    if (← get).head? == some (ascii "-o") then
      advance
      let more ← either all fuel
      return holds || more
    else return holds

/-- Reads expressions with `-a` between them. -/
def both (all : List Bytes) : Nat → Condition Bool
  | 0 => beyond all
  | fuel + 1 => do
    let holds ← term all fuel
    if (← get).head? == some (ascii "-a") then
      advance
      let more ← both all fuel
      return holds && more
    else return holds

/-- Reads an expression without `-a` and `-o`. -/
def term (all : List Bytes) : Nat → Condition Bool
  | 0 => beyond all
  | fuel + 1 => do
    let first ← next all
    if first = bang then
      advance
      let _ ← next all
      return !(← term all fuel)
    else if first = opening then
      advance
      let _ ← next all
      let left ← get
      let inside := left.tail.takeWhile (· != closing)
      let count := if inside.length < 4 then inside.length + 1 else left.length
      let holds ← sized all fuel count
      match ← get with
      | [] => fault (ascii "')' expected")
      | found :: _ =>
        if found != closing then fault (ascii "')' expected, found " ++ quoted found)
        else
          advance
          return holds
    else
      let args ← get
      if 4 ≤ args.length && first = ascii "-l" && args[2]?.any isBinary then binary all true
      else if 3 ≤ args.length && args[1]?.any isBinary then binary all false
      else if isUnary first then unary all
      else
        advance
        return !first.isEmpty

end

/-- Reads a whole expression. -/
def whole (args : List Bytes) : Condition Bool := do
  if args.isEmpty then return false
  else
    let holds ← sized args (4 * args.length + 8) args.length
    match ← get with
    | [] => return holds
    | extra :: _ => fault (ascii "extra argument " ++ quoted extra)

/-- Whether an expression holds, or what is wrong with it. -/
def evaluate (args : List Bytes) : Prog (Except Bytes Bool) := do
  let result ← ((whole args).run args).run
  return result.map (·.1)

end Condition

/-- The exit code that says whether an expression holds. -/
def conditionCode (args : List Bytes) : Printer Int := do
  match ← Printer.lift (Condition.evaluate args) with
  | .ok holds => return if holds then 0 else 1
  | .error message => Printer.die 2 message

def test : Utility := printing 2 conditionCode

/-- The program `test` under the name that needs a closing bracket. -/
def bracket : Utility := printing 2 fun args =>
  if args.getLast? = some (ascii "]") then conditionCode args.dropLast
  else Printer.die 2 (ascii "missing ']'")

end JobShell.Utility
