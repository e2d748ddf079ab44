import JobShell.Script.Syntax

/-! # Reading scripts: signs

A script is read from the front. As it may come in pieces, reading can find that there is not enough of it
yet; then it is tried again when there is more. -/

namespace JobShell.Script

open Utility (ascii byte charOf)

/-- Why a script cannot be read. -/
inductive Fault
  /-- More of the script is needed. -/
  | incomplete
  | wrong (line : Nat) (message : Bytes)
deriving DecidableEq, Repr

/-- An operator between commands. -/
inductive Operator
  | both
  | either
  | pipe
  | background
  | semicolon
  | doubleSemicolon
  | opening
  | closing
deriving DecidableEq, Repr

/-- An operator that redirects. -/
inductive Arrow
  | file (direction : Direction)
  | copy (input : Bool)
  /-- With `strips`, tabs at the beginning of lines do not count. -/
  | document (strips : Bool)
deriving DecidableEq, Repr

/-- The signs that a script is made of. -/
inductive Token
  | word (w : Word)
  | arrow (d : Option Nat) (a : Arrow)
  | operator (o : Operator)
  | newline
  | finish

/-- The words that control commands, where a command can begin. -/
def keywords : List String :=
  ["!", "case", "do", "done", "elif", "else", "esac", "fi", "for", "if", "in", "then", "until", "while",
   "\x7b",
   "\x7d"]

/-- The keyword that a sign is. -/
def Token.keyword? : Token → Option String
  | .word w => w.plain?.bind fun text => keywords.find? fun k => ascii k == text
  | _ => none

/-- What an operator is called in a message. -/
def Operator.name : Operator → String
  | .both => "\"&&\""
  | .either => "\"||\""
  | .pipe => "\"|\""
  | .background => "\"&\""
  | .semicolon => "\";\""
  | .doubleSemicolon => "\";;\""
  | .opening => "\"(\""
  | .closing => "\")\""

/-- What a sign is called in a message. -/
def Token.name (t : Token) : String :=
  match t, t.keyword? with
  | _, some k => "\"" ++ k ++ "\""
  | .word _, none => "word"
  | .arrow _ _, _ => "redirection"
  | .operator o, _ => o.name
  | .newline, _ => "newline"
  | .finish, _ => "end of file"

/-- A text of the script that a redirection asks for, and that begins on the next line. -/
structure Pending where
  number : Nat
  delimiter : Bytes
  strips : Bool
  expands : Bool

/-- What is left of a script, and what was found in it beside the commands. -/
structure Input where
  rest : Bytes
  line : Nat := 1
  /-- There is no more behind the rest. -/
  final : Bool := true
  /-- A sign that was read and not used. -/
  pushed : Option Token := none
  pending : List Pending := []
  documents : List (Nat × Word) := []
  /-- The number of the next document. -/
  next : Nat := 0

/-- A reader of a script. -/
abbrev Reader := StateT Input (Except Fault)

namespace Reader

/-- The script is wrong. -/
def fail {α : Type} (message : String) : Reader α := do
  throw (.wrong (← get).line (ascii "Syntax error: " ++ ascii message))

/-- The next byte. At the end there is none. -/
def peek? : Reader (Option UInt8) := do
  let s ← get
  match s.rest with
  | b :: _ => return some b
  | [] => if s.final then return none else throw .incomplete

/-- Goes on behind the next byte. -/
def skip : Reader Unit :=
  modify fun s =>
    match s.rest with
    | b :: rest => { s with rest, line := if b = 10 then s.line + 1 else s.line }
    | [] => s

/-- Puts a byte back. -/
def putBack (b : UInt8) : Reader Unit :=
  modify fun s => { s with rest := b :: s.rest }

/-- Puts a sign back. -/
def pushBack (t : Token) : Reader Unit :=
  modify fun s => { s with pushed := some t }

/-- A text without the joined lines at its beginning, and how many these are. -/
def dropJoints : Bytes → Nat × Bytes
  | 92 :: 10 :: rest =>
    let (n, rest) := dropJoints rest
    (n + 1, rest)
  | rest => (0, rest)

/-- A text without blanks and joined lines at its beginning, and how many lines are joined. -/
def dropBlanks : Bytes → Nat × Bytes
  | 32 :: rest => dropBlanks rest
  | 9 :: rest => dropBlanks rest
  | 92 :: 10 :: rest =>
    let (n, rest) := dropBlanks rest
    (n + 1, rest)
  | rest => (0, rest)

/-- Takes something off the beginning of the rest. -/
def dropping (f : Bytes → Nat × Bytes) : Reader Unit := do
  let s ← get
  let (n, rest) := f s.rest
  if rest == [92] && !s.final then throw .incomplete
  set { s with rest, line := s.line + n }

/-- The next byte, where lines may be joined in front of it. -/
def peekJoined? : Reader (Option UInt8) := do
  dropping dropJoints
  peek?

/-- Takes the next byte if it is this one. -/
def takes (b : UInt8) : Reader Bool := do
  if (← peekJoined?) = some b then
    skip
    return true
  else return false

/-- Takes bytes as long as they are of a kind. -/
def takeWhile (p : UInt8 → Bool) : Nat → Reader Bytes
  | 0 => return []
  | fuel + 1 => do
    match ← peekJoined? with
    | some b =>
      if p b then
        skip
        return b :: (← takeWhile p fuel)
      else return []
    | none => return []

/-- A number of bytes that is not less than what is left. -/
def length : Reader Nat := do
  return (← get).rest.length + 1

/-- Takes what is behind a single quote, and the quote at its end. -/
def takeQuoted : Reader Bytes := do
  let s ← get
  let inside := s.rest.takeWhile (· != 39)
  let line := s.line + inside.count 10
  match s.rest.drop inside.length with
  | _ :: rest =>
    set { s with rest, line }
    return inside
  | [] =>
    if s.final then
      set { s with rest := [], line }
      fail "Unterminated quoted string"
    else throw .incomplete

/-- The inside of backquotes, and what is behind them. A backslash is dropped in front of what it hides. -/
def unquoteBack (quoted : Bool) : Bytes → Option (Bytes × Bytes)
  | [] => none
  | 96 :: rest => some ([], rest)
  | 92 :: 10 :: rest => unquoteBack quoted rest
  | 92 :: b :: rest =>
    let hidden := b == 92 || b == 96 || b == 36 || (quoted && b == 34)
    (unquoteBack quoted rest).map fun (inside, behind) =>
      ((if hidden then [b] else [92, b]) ++ inside, behind)
  | b :: rest => (unquoteBack quoted rest).map fun (inside, behind) => (b :: inside, behind)

/-- Takes what is between backquotes. -/
def takeBackquoted (quoted : Bool) : Reader Bytes := do
  let s ← get
  match unquoteBack quoted s.rest with
  | some (inside, rest) =>
    set { s with rest, line := s.line + (s.rest.take (s.rest.length - rest.length)).count 10 }
    return inside
  | none =>
    if s.final then
      set { s with rest := [], line := s.line + s.rest.count 10 }
      fail "EOF in backquote substitution"
    else throw .incomplete

/-- Whether a line goes on with the next one. -/
def isJoined (line : Bytes) : Bool :=
  (line.reverse.takeWhile (· == 92)).length % 2 == 1

/-- The lines up to a delimiter, backwards, and what is behind it; the flag says whether it was found. -/
def collectDocument (p : Pending) : Nat → Bool → List Bytes → Bytes → List Bytes × Bytes × Bool
  | 0, _, lines, rest => (lines, rest, false)
  | fuel + 1, joined, lines, rest =>
    if rest.isEmpty then (lines, [], false)
    else
      let line := rest.takeWhile (· != 10)
      let behind := rest.drop line.length
      let shown := if p.strips then line.dropWhile (· == 9) else line
      if shown = p.delimiter && !joined then (lines, behind.drop 1, true)
      else
        let kept := shown ++ behind.take 1
        collectDocument p fuel (p.expands && isJoined line) (kept :: lines) (behind.drop 1)

/-- Takes the text of a document, and the line where it begins. -/
def takeDocument (p : Pending) : Reader (Bytes × Nat) := do
  let s ← get
  let (lines, rest, found) := collectDocument p (s.rest.length + 1) false [] s.rest
  if !found && !s.final then throw .incomplete
  set { s with rest, line := s.line + (s.rest.take (s.rest.length - rest.length)).count 10 }
  return (lines.reverse.flatten, s.line)

end Reader

/-! ### Parts of words that are built -/

/-- A byte behind the parts of a word that is built backwards. -/
def pushByte (b : UInt8) (quoted : Bool) (built : List Part) : List Part :=
  match built with
  | .text bytes q :: rest => if q = quoted then .text (b :: bytes) q :: rest else .text [b] quoted :: built
  | _ => .text [b] quoted :: built

/-- A part with its text backwards. -/
def Part.flipped : Part → Part
  | .text bytes quoted => .text bytes.reverse quoted
  | p => p

/-- Parts behind the parts of a word that is built backwards. -/
def pushParts (parts built : List Part) : List Part :=
  (parts.map Part.flipped).reverse ++ built

/-- The parts of a word that was built backwards. -/
def finishParts (built : List Part) : Word :=
  (built.map Part.flipped).reverse

/-- The parts of what was between double quotes. All arguments alone are no mark that there is a word. -/
def markQuoted (parts : List Part) : List Part :=
  match parts with
  | [.parameter [64] .plain _ _] => parts
  | _ => .mark :: parts

end JobShell.Script
