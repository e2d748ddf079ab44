import JobShell.Utility.Printer

/-! # Options

The options of a program: letters behind one dash, of which several may stand together, and names behind two.
A name may be cut short as long as it is clear which one is meant. Options may stand behind operands, unless
the program takes the arguments of another program, and two dashes end them. -/

namespace JobShell.Utility

/-- What an option takes. -/
inductive Takes
  | nothing
  | value
  /-- A value that is written right behind the option, if there is one. -/
  | maybe
deriving DecidableEq, Repr

/-- An option that a program has: its letter, its names, and what it takes. -/
structure OptionRow where
  letter : Option Char
  names : List String
  takes : Takes := .nothing

/-- An option that was given; one without a letter is known by its first name. -/
structure Given where
  key : String
  value : Option Bytes := none
deriving DecidableEq, Repr

/-- The arguments of a program. A fault ends the options; those before it count. -/
structure Arguments where
  given : List Given := []
  operands : List Bytes := []
  fault : Option Bytes := none
deriving Repr

namespace OptionRow

/-- The key of an option. -/
def key (r : OptionRow) : String :=
  match r.letter with
  | some c => String.singleton c
  | none => r.names.headD ""

end OptionRow

/-- The option with a letter. -/
def rowOfLetter? (rows : List OptionRow) (b : UInt8) : Option OptionRow :=
  rows.find? fun r => r.letter == some (charOf b)

/-- The options that a name may mean: the one that has it, or those whose names begin with it. -/
def rowsOfName (rows : List OptionRow) (name : Bytes) : List (OptionRow × String) :=
  let all := rows.flatMap fun r => r.names.map fun n => (r, n)
  match all.find? fun r => ascii r.2 == name with
  | some r => [r]
  | none => all.filter fun r => name.isPrefixOf (ascii r.2)

/-- What is said about a name that may mean several options. -/
def ambiguous (argument : Bytes) (found : List (OptionRow × String)) : Bytes :=
  ascii "option '" ++ argument ++ ascii "' is ambiguous; possibilities:" ++
    found.flatMap fun r => ascii " '--" ++ ascii r.2 ++ ascii "'"

/-- Puts an option in front of arguments. -/
def Arguments.cons (g : Given) (a : Arguments) : Arguments := { a with given := g :: a.given }

/-- Puts an operand in front of arguments. -/
def Arguments.consOperand (operand : Bytes) (a : Arguments) : Arguments :=
  { a with operands := operand :: a.operands }

/-- Reads the letters of one argument, and the value that the last of them may take from the next argument.
The answer says whether it did. -/
def readLetters (rows : List OptionRow) (next : Option Bytes) : Bytes → List Given × Option Bytes × Bool
  | [] => ([], none, false)
  | b :: rest =>
    match rowOfLetter? rows b with
    | none => ([], some (ascii "invalid option -- '" ++ [b] ++ ascii "'"), false)
    | some r =>
      match r.takes with
      | .nothing =>
        let (given, fault, used) := readLetters rows next rest
        (⟨r.key, none⟩ :: given, fault, used)
      | .maybe => ([⟨r.key, if rest.isEmpty then none else some rest⟩], none, false)
      | .value =>
        if !rest.isEmpty then ([⟨r.key, some rest⟩], none, false)
        else
          match next with
          | some value => ([⟨r.key, some value⟩], none, true)
          | none => ([], some (ascii "option requires an argument -- '" ++ [b] ++ ascii "'"), false)

/-- Reads an option with a name; the last flag says whether it took the next argument. -/
def readNamed (rows : List OptionRow) (next : Option Bytes) (argument : Bytes) :
    Except Bytes (Given × Bool) :=
  let text := argument.drop 2
  let name := text.takeWhile (· != 61)
  let value := if text.contains 61 then some ((text.dropWhile (· != 61)).drop 1) else none
  match rowsOfName rows name with
  | [] => .error (ascii "unrecognized option '--" ++ (if value.isSome then text else name) ++ ascii "'")
  | (r, full) :: more =>
    if more.any fun m => m.1.key != r.key then .error (ambiguous argument ((r, full) :: more))
    else
      match r.takes, value, next with
      | .nothing, none, _ => .ok (⟨r.key, none⟩, false)
      | .nothing, some _, _ =>
        .error (ascii "option '--" ++ ascii full ++ ascii "' doesn't allow an argument")
      | .maybe, value, _ => .ok (⟨r.key, value⟩, false)
      | .value, some value, _ => .ok (⟨r.key, some value⟩, false)
      | .value, none, some next => .ok (⟨r.key, some next⟩, true)
      | .value, none, none => .error (ascii "option '--" ++ ascii full ++ ascii "' requires an argument")

/-- Reads arguments. With `mixed`, options may stand behind operands. -/
def readArguments (rows : List OptionRow) (mixed : Bool) : Nat → List Bytes → Arguments
  | 0, args => { operands := args }
  | _, [] => {}
  | fuel + 1, arg :: rest =>
    if arg = ascii "--" then { operands := rest }
    else if (ascii "--").isPrefixOf arg then
      match readNamed rows rest.head? arg with
      | .error fault => { fault := some fault }
      | .ok (g, used) => (readArguments rows mixed fuel (if used then rest.drop 1 else rest)).cons g
    else if arg.head? = some 45 && arg.length > 1 then
      match readLetters rows rest.head? arg.tail with
      | (given, some fault, _) => { given, fault := some fault }
      | (given, none, used) =>
        let more := readArguments rows mixed fuel (if used then rest.drop 1 else rest)
        { more with given := given ++ more.given }
    else if mixed then (readArguments rows mixed fuel rest).consOperand arg
    else { operands := arg :: rest }

namespace Arguments

/-- Reads arguments whose options may stand behind operands. -/
def read (rows : List OptionRow) (args : List Bytes) : Arguments :=
  readArguments rows true (args.length + 1) args

/-- Reads arguments whose options end at the first operand. -/
def readInFront (rows : List OptionRow) (args : List Bytes) : Arguments :=
  readArguments rows false (args.length + 1) args

/-- Ends the program if there is a fault in its arguments. -/
def check (a : Arguments) (code : Int) : Printer Unit :=
  match a.fault with
  | none => return
  | some fault => Printer.misuse code fault

/-- Whether an option was given. -/
def has (a : Arguments) (key : String) : Bool :=
  a.given.any (·.key == key)

/-- The value that was given last for an option. -/
def value? (a : Arguments) (key : String) : Option Bytes :=
  (a.given.reverse.find? (·.key == key)).bind (·.value)

/-- Which of several options was given last. -/
def last? (a : Arguments) (keys : List String) : Option String :=
  (a.given.reverse.find? fun g => keys.contains g.key).map (·.key)

end Arguments

/-- What is said about a value that is none of those an option can have. -/
def invalidChoice (option : String) (choices : List String) (value : Bytes) : Bytes :=
  ascii "invalid argument " ++ quoted value ++ ascii " for '" ++ ascii option ++
    ascii "'\nValid arguments are:" ++ choices.flatMap fun c => ascii "\n  - '" ++ ascii c ++ ascii "'"

/-- Options of one letter each, without names and values. -/
def letters (text : String) : List OptionRow :=
  text.toList.map fun c => ⟨some c, [], .nothing⟩

end JobShell.Utility
