import JobShell.Script.Lexer

/-! # Reading scripts: commands

Commands are read one after the other, a line at a time: what stands on one line is read before any of it is
run, and a command that is not ended goes on on the next line. -/

namespace JobShell.Script

open Utility (ascii byte charOf isDigit)
open Reader

/-- What ends the parts of a word. -/
inductive Ending
  /-- A blank or an operator. -/
  | word
  | quote
  | brace
  | parentheses
  /-- Nothing but the end of the text. -/
  | text
deriving DecidableEq, Repr

/-- Whether a byte ends a word. -/
def endsWord (b : UInt8) : Bool :=
  b == 32 || b == 9 || b == 10 || "();&|<>".toList.contains (charOf b)

/-- Whether a backslash between double quotes hides the byte behind it. -/
def isHidden (ending : Ending) (b : UInt8) : Bool :=
  b == 92 || b == 96 || b == 36 || (b == 34 && ending != .text) || (b == 125 && ending = .brace)

/-- How the end of a list of commands is found. -/
inductive Extent
  /-- At the end of the line. -/
  | line
  /-- At a sign that ends commands; there is at least one command. -/
  | some
  /-- At a sign that ends commands. -/
  | any
deriving DecidableEq, Repr

/-- Whether a sign ends a list of commands. -/
def Token.endsCommands (t : Token) : Bool :=
  match t with
  | .finish | .operator .closing | .operator .doubleSemicolon => true
  | t => t.keyword?.any ["do", "done", "elif", "else", "esac", "fi", "then", "\x7d"].contains

/-- The script has a sign where another one, or something else, is needed. -/
def unexpected {α : Type} (t : Token) (needed : Option String) : Reader α :=
  fail (t.name ++ " unexpected" ++ (match needed with
    | some n => " (expecting \"" ++ n ++ "\")"
    | none => ""))

/-- The delimiter of a document, and whether what is in the document is expanded. -/
def delimiterOf (w : Word) : Bytes × Bool :=
  (w.flatMap fun
    | .text bytes _ => bytes
    | .parameter name .plain _ _ => 36 :: name
    | _ => [], w.all fun
    | .text _ quoted => !quoted
    | .mark => false
    | _ => true)

/-- Several commands as one. -/
def sequenceOf (reversed : List Command) : Command :=
  match reversed with
  | [c] => c
  | _ => .sequence reversed.reverse

mutual

/-- Reads the parts of a word; `quoted` says that they are between double quotes or as good as that. -/
def readParts : Nat → Ending → Bool → Nat → List Part → Reader Word
  | 0, _, _, _, built => return finishParts built
  | fuel + 1, ending, quoted, depth, built => do
    match ← peek? with
    | none =>
      match ending with
      | .word | .text => return finishParts built
      | .quote => fail "Unterminated quoted string"
      | .brace => fail "Missing '\x7d'"
      | .parentheses => fail "Missing '))'"
    | some b =>
      if ending = .word && endsWord b then return finishParts built
      else
        skip
        match charOf b with
        | '\\' => readHidden fuel ending quoted depth built
        | '\'' =>
          if quoted then readParts fuel ending quoted depth (pushByte b quoted built)
          else
            let inside ← takeQuoted
            readParts fuel ending quoted depth (pushParts [.mark, .text inside true] built)
        | '"' =>
          if ending = .quote then return finishParts built
          else if ending = .text then readParts fuel ending quoted depth (pushByte b quoted built)
          else if quoted then readParts fuel ending quoted depth built
          else
            let inside ← readParts fuel .quote true 0 []
            readParts fuel ending quoted depth (pushParts (markQuoted inside) built)
        | '$' =>
          let part ← readDollar fuel quoted
          readParts fuel ending quoted depth (pushParts [part] built)
        | '`' =>
          let part ← readBackquoted fuel quoted
          readParts fuel ending quoted depth (pushParts [part] built)
        | '\x7d' =>
          if ending = .brace then return finishParts built
          else readParts fuel ending quoted depth (pushByte b quoted built)
        | '(' => readParts fuel ending quoted (depth + 1) (pushByte b quoted built)
        | ')' =>
          if ending = .parentheses && depth = 0 then
            if ← takes 41 then return finishParts built
            else readParts fuel ending quoted depth (pushByte b quoted built)
          else readParts fuel ending quoted (depth - 1) (pushByte b quoted built)
        | _ => readParts fuel ending quoted depth (pushByte b quoted built)

/-- Reads what is behind a backslash, and the parts behind it. -/
def readHidden : Nat → Ending → Bool → Nat → List Part → Reader Word
  | 0, _, _, _, built => return finishParts built
  | fuel + 1, ending, quoted, depth, built => do
    match ← peek? with
    | none => readParts fuel ending quoted depth (pushByte 92 true built)
    | some 10 =>
      skip
      readParts fuel ending quoted depth built
    | some b =>
      skip
      let built := if quoted && !isHidden ending b then pushByte 92 true built else built
      readParts fuel ending quoted depth (pushByte b true built)

/-- Reads what is behind a dollar sign. -/
def readDollar : Nat → Bool → Reader Part
  | 0, quoted => return .text [36] quoted
  | fuel + 1, quoted => do
    match ← peekJoined? with
    | none => return .text [36] quoted
    | some b =>
      if b = 40 then
        skip
        if ← takes 40 then
          let inside ← readParts fuel .parentheses true 0 []
          return .arithmetic inside quoted
        else
          let pending := (← get).pending
          modify fun s => { s with pending := [] }
          let commands ← readList fuel .any []
          match ← readToken fuel with
          | .operator .closing =>
            modify fun s => { s with pending }
            return .output commands quoted
          | t => unexpected t (some ")")
      else if b = 123 then
        skip
        readBraces fuel quoted
      else if isNameStart b then
        let name ← takeWhile isNameByte (← length)
        return .parameter name .plain [] quoted
      else if isDigit b || isSpecial b then
        skip
        return .parameter [b] .plain [] quoted
      else return .text [36] quoted

/-- Reads commands between backquotes. -/
def readBackquoted : Nat → Bool → Reader Part
  | 0, quoted => return .text [] quoted
  | fuel + 1, quoted => do
    let inside ← takeBackquoted quoted
    let s ← get
    match (readList fuel .any []).run { rest := inside, next := s.next } with
    | .error e => throw e
    | .ok (commands, after) =>
      set { s with documents := after.documents ++ s.documents, next := after.next }
      return .output commands quoted

/-- Reads a parameter between braces. -/
def readBraces : Nat → Bool → Reader Part
  | 0, quoted => return .parameter [] .bad [] quoted
  | fuel + 1, quoted => do
    match ← peekJoined? with
    | none => fail "Missing '\x7d'"
    | some b =>
      if isNameStart b then readForm fuel quoted (← takeWhile isNameByte (← length))
      else if isDigit b then readForm fuel quoted (← takeWhile isDigit (← length))
      else if b = 125 then readBad fuel quoted
      else
        skip
        if b = 35 then readLength fuel quoted
        else if isSpecial b then readForm fuel quoted [b]
        else readBad fuel quoted

/-- Reads what is behind a number sign at the beginning of braces: it asks for a length, or is the name. -/
def readLength : Nat → Bool → Reader Part
  | 0, quoted => return .parameter [] .bad [] quoted
  | fuel + 1, quoted => do
    match ← peekJoined? with
    | none => fail "Missing '\x7d'"
    | some b =>
      if isNameByte b then
        let name ← takeWhile (if isDigit b then isDigit else isNameByte) (← length)
        if ← takes 125 then return .parameter name .length [] quoted else readBad fuel quoted
      else
        skip
        let closes := (← peekJoined?) = some 125
        if b = 125 || !closes then
          putBack b
          readForm fuel quoted [35]
        else if isSpecial b then
          skip
          return .parameter [b] .length [] quoted
        else readBad fuel quoted

/-- Reads what makes no sense between braces. -/
def readBad : Nat → Bool → Reader Part
  | 0, quoted => return .parameter [] .bad [] quoted
  | fuel + 1, quoted => do
    let inside ← readParts fuel .brace quoted 0 []
    return .parameter [] .bad inside quoted

/-- Reads what is behind the name of a parameter between braces. -/
def readForm : Nat → Bool → Bytes → Reader Part
  | 0, quoted, name => return .parameter name .bad [] quoted
  | fuel + 1, quoted, name => do
    if ← takes 125 then return .parameter name .plain [] quoted
    else
      let orEmpty ← takes 58
      match ← peekJoined? with
      | none => fail "Missing '\x7d'"
      | some b =>
        if "-+?=".toList.contains (charOf b) then
          skip
          let inside ← readParts fuel .brace quoted 0 []
          return .parameter name (.alternative (charOf b) orEmpty) inside quoted
        else if (b = 37 || b = 35) && !orEmpty then
          skip
          let longest ← takes b
          let inside ← readParts fuel .brace false 0 []
          return .parameter name (.trim (b = 37) longest) inside quoted
        else readBad fuel quoted

/-- Reads the next sign. -/
def readToken : Nat → Reader Token
  | 0 => return .finish
  | fuel + 1 => do
    let s ← get
    match s.pushed with
    | some t =>
      set { s with pushed := none }
      return t
    | none =>
      dropping dropBlanks
      match ← peek? with
      | none => return .finish
      | some b =>
        match charOf b with
        | '#' =>
          modify fun s => { s with rest := s.rest.dropWhile (· != 10) }
          readToken fuel
        | '\n' =>
          skip
          readDocuments fuel (← get).pending
          modify fun s => { s with pending := [] }
          return .newline
        | '&' => pair b .both .background
        | '|' => pair b .either .pipe
        | ';' => pair b .doubleSemicolon .semicolon
        | '(' =>
          skip
          return .operator .opening
        | ')' =>
          skip
          return .operator .closing
        | '<' | '>' =>
          skip
          readArrow none b
        | _ =>
          match (← get).rest with
          | d :: a :: _ =>
            if isDigit d && (a = 60 || a = 62) then
              skip
              skip
              readArrow (some (d.toNat - 48)) a
            else return .word (← readParts fuel .word false 0 [])
          | _ => return .word (← readParts fuel .word false 0 [])
where
  /-- One of two operators, of which the first has the sign twice. -/
  pair (b : UInt8) (twice once : Operator) : Reader Token := do
    skip
    if ← takes b then return .operator twice else return .operator once
  /-- Reads the rest of an operator that redirects. -/
  readArrow (d : Option Nat) (b : UInt8) : Reader Token := do
    if b = 62 then
      if ← takes 62 then return .arrow d (.file .append)
      else if ← takes 124 then return .arrow d (.file .force)
      else if ← takes 38 then return .arrow d (.copy false)
      else return .arrow d (.file .output)
    else if ← takes 60 then return .arrow d (.document (← takes 45))
    else if ← takes 62 then return .arrow d (.file .both)
    else if ← takes 38 then return .arrow d (.copy true)
    else return .arrow d (.file .input)

/-- Reads the documents that begin behind a line. -/
def readDocuments : Nat → List Pending → Reader Unit
  | 0, _ => return
  | _, [] => return
  | fuel + 1, p :: rest => do
    let (text, line) ← takeDocument p
    let s ← get
    if p.expands then
      match (readParts fuel .text true 0 []).run { rest := text, line, next := s.next } with
      | .error e => throw e
      | .ok (parts, after) =>
        set { s with documents := (p.number, parts) :: after.documents ++ s.documents, next := after.next }
    else set { s with documents := (p.number, [.text text true]) :: s.documents }
    readDocuments fuel rest

/-- Reads the next sign that is no end of a line. -/
def readPastLines : Nat → Reader Token
  | 0 => return .finish
  | fuel + 1 => do
    match ← readToken fuel with
    | .newline => readPastLines fuel
    | t => return t

/-- Reads a keyword that has to be there. -/
def need (t : Token) (keyword : String) : Reader Unit :=
  if t.keyword? = some keyword then return else unexpected t (some keyword)

/-- Reads a list of commands; those that were read before stand backwards. -/
def readList : Nat → Extent → List Command → Reader (List Command)
  | 0, _, built => return built.reverse
  | fuel + 1, extent, built => do
    let t ← if extent = .line then readToken fuel else readPastLines fuel
    match t with
    | .newline => return built.reverse
    | .finish =>
      pushBack t
      return built.reverse
    | t =>
      pushBack t
      if extent = .any && t.endsCommands then return built.reverse
      else
        let line := (← get).line
        let c ← readAndOr fuel
        let extent := if extent = .some then .any else extent
        match ← readToken fuel with
        | .newline =>
          pushBack .newline
          readList fuel extent (c :: built)
        | .finish =>
          pushBack .finish
          readList fuel extent (c :: built)
        | .operator .semicolon => readList fuel extent (c :: built)
        | .operator .background => readList fuel extent (.background line c :: built)
        | t =>
          if extent = .line then unexpected t none
          else
            pushBack t
            return (c :: built).reverse

/-- Reads commands of which the later ones depend on the earlier ones. -/
def readAndOr : Nat → Reader Command
  | 0 => return .sequence []
  | fuel + 1 => do
    let first ← readPipeline fuel false
    readMore fuel first

/-- Reads what depends on a command. -/
def readMore : Nat → Command → Reader Command
  | 0, first => return first
  | fuel + 1, first => do
    match ← readToken fuel with
    | .operator .both =>
      let second ← readPipeline fuel true
      readMore fuel (.both first second)
    | .operator .either =>
      let second ← readPipeline fuel true
      readMore fuel (.either first second)
    | t =>
      pushBack t
      return first

/-- Reads commands that are joined by pipes. -/
def readPipeline : Nat → Bool → Reader Command
  | 0, _ => return .sequence []
  | fuel + 1, skips => do
    let t ← if skips then readPastLines fuel else readToken fuel
    let negated := t.keyword? = some "!"
    if !negated then pushBack t
    let first ← readCommand fuel false
    let stages ← readStages fuel [first]
    let c := match stages with
      | [c] => c
      | _ => .pipeline stages
    return if negated then .negated c else c

/-- Reads the later stages of a pipeline. -/
def readStages : Nat → List Command → Reader (List Command)
  | 0, built => return built.reverse
  | fuel + 1, built => do
    match ← readToken fuel with
    | .operator .pipe =>
      let c ← readCommand fuel true
      readStages fuel (c :: built)
    | t =>
      pushBack t
      return built.reverse

/-- Reads a command. -/
def readCommand : Nat → Bool → Reader Command
  | 0, _ => return .sequence []
  | fuel + 1, skips => do
    let t ← if skips then readPastLines fuel else readToken fuel
    let line := (← get).line
    match t, t.keyword? with
    | _, some "if" =>
      let c ← readConditional fuel
      readRedirected fuel line c
    | _, some "while" =>
      let c ← readLoop fuel true
      readRedirected fuel line c
    | _, some "until" =>
      let c ← readLoop fuel false
      readRedirected fuel line c
    | _, some "for" =>
      let c ← readFor fuel line
      readRedirected fuel line c
    | _, some "case" =>
      let c ← readChoice fuel line
      readRedirected fuel line c
    | _, some "\x7b" =>
      let commands ← readList fuel .some []
      need (← readToken fuel) "\x7d"
      readRedirected fuel line (.sequence commands)
    | .operator .opening, _ =>
      let commands ← readList fuel .some []
      match ← readToken fuel with
      | .operator .closing => readRedirected fuel line (.subshell line (.sequence commands) [])
      | t => unexpected t (some ")")
    | t, some _ => unexpected t none
    | .word _, none | .arrow _ _, none =>
      pushBack t
      readSimple fuel line [] [] []
    | t, none => unexpected t none

/-- Reads a command behind `if` or `elif`. -/
def readConditional : Nat → Reader Command
  | 0 => return .sequence []
  | fuel + 1 => do
    let test ← readList fuel .some []
    need (← readToken fuel) "then"
    let yes ← readList fuel .some []
    let t ← readToken fuel
    match t.keyword? with
    | some "elif" =>
      let no ← readConditional fuel
      return .conditional (.sequence test) (.sequence yes) (some no)
    | some "else" =>
      let no ← readList fuel .some []
      need (← readToken fuel) "fi"
      return .conditional (.sequence test) (.sequence yes) (some (.sequence no))
    | _ =>
      need t "fi"
      return .conditional (.sequence test) (.sequence yes) none

/-- Reads a loop behind `while` or `until`. -/
def readLoop : Nat → Bool → Reader Command
  | 0, _ => return .sequence []
  | fuel + 1, outcome => do
    let test ← readList fuel .some []
    need (← readToken fuel) "do"
    let body ← readList fuel .some []
    need (← readToken fuel) "done"
    return .loop outcome (.sequence test) (.sequence body)

/-- Reads a loop behind `for`. -/
def readFor : Nat → Nat → Reader Command
  | 0, _ => return .sequence []
  | fuel + 1, line => do
    let name ← match ← readToken fuel with
      | .word w =>
        match w.plain? with
        | some name => if isName name then pure name else fail "Bad for loop variable"
        | none => fail "Bad for loop variable"
      | _ => fail "Bad for loop variable"
    let t ← readPastLines fuel
    let words ← do
      if t.keyword? = some "in" then readWords fuel []
      else
        match t with
        | .operator .semicolon => pure ()
        | _ => pushBack t
        pure [[.parameter [64] .plain [] true]]
    need (← readPastLines fuel) "do"
    let body ← readList fuel .some []
    need (← readToken fuel) "done"
    return .forEach line name words (.sequence body)

/-- Reads the words of a loop, up to the end of the line. -/
def readWords : Nat → List Word → Reader (List Word)
  | 0, built => return built.reverse
  | fuel + 1, built => do
    match ← readToken fuel with
    | .word w => readWords fuel (w :: built)
    | .newline | .operator .semicolon => return built.reverse
    | t => unexpected t none

/-- Reads a choice behind `case`. -/
def readChoice : Nat → Nat → Reader Command
  | 0, _ => return .sequence []
  | fuel + 1, line => do
    match ← readToken fuel with
    | .word w =>
      need (← readPastLines fuel) "in"
      let cases ← readCases fuel []
      return .choice line w cases
    | t => unexpected t (some "word")

/-- Reads the cases of a choice. -/
def readCases : Nat → List (List Word × Command) → Reader (List (List Word × Command))
  | 0, built => return built.reverse
  | fuel + 1, built => do
    let t ← readPastLines fuel
    if t.keyword? = some "esac" then return built.reverse
    else
      match t with
      | .operator .opening => pure ()
      | _ => pushBack t
      let patterns ← readPatterns fuel []
      let body ← readList fuel .any []
      let t ← readPastLines fuel
      let built := (patterns, Command.sequence body) :: built
      match t with
      | .operator .doubleSemicolon => readCases fuel built
      | _ =>
        if t.keyword? = some "esac" then return built.reverse else unexpected t (some ";;")

/-- Reads the patterns of a case, and the parenthesis behind them. -/
def readPatterns : Nat → List Word → Reader (List Word)
  | 0, built => return built.reverse
  | fuel + 1, built => do
    match ← readToken fuel with
    | .word w =>
      match ← readToken fuel with
      | .operator .pipe => readPatterns fuel (w :: built)
      | .operator .closing => return (w :: built).reverse
      | t => unexpected t (some ")")
    | t => unexpected t (some ")")

/-- Reads the redirections behind a command. -/
def readRedirected : Nat → Nat → Command → Reader Command
  | 0, _, c => return c
  | fuel + 1, line, c => do
    match ← readRedirections fuel [] with
    | [] => return c
    | redirections =>
      match c with
      | .subshell line c _ => return .subshell line c redirections
      | c => return .redirected line c redirections

/-- Reads redirections as long as there are any. -/
def readRedirections : Nat → List Redirection → Reader (List Redirection)
  | 0, built => return built.reverse
  | fuel + 1, built => do
    match ← readToken fuel with
    | .arrow d a =>
      let r ← readRedirection fuel d a
      readRedirections fuel (r :: built)
    | t =>
      pushBack t
      return built.reverse

/-- Reads what a descriptor is redirected to. -/
def readRedirection : Nat → Option Nat → Arrow → Reader Redirection
  | 0, d, _ => return .copy (d.getD 0) []
  | fuel + 1, d, a => do
    match ← readToken fuel with
    | .word w =>
      match a with
      | .file .input => return .file (d.getD 0) .input w
      | .file .both => return .file (d.getD 0) .both w
      | .file direction => return .file (d.getD 1) direction w
      | .copy input => return .copy (d.getD (if input then 0 else 1)) w
      | .document strips =>
        let (delimiter, expands) := delimiterOf w
        let s ← get
        let p : Pending := { number := s.next, delimiter, strips, expands }
        set { s with next := s.next + 1, pending := s.pending ++ [p] }
        return .document (d.getD 0) s.next
    | t => unexpected t none

/-- Reads a simple command, or the definition of a function. -/
def readSimple : Nat → Nat → List Word → List Word → List Redirection → Reader Command
  | 0, line, assignments, words, redirections =>
    return .simple line assignments.reverse words.reverse redirections.reverse
  | fuel + 1, line, assignments, words, redirections => do
    match ← readToken fuel with
    | .word w =>
      if words.isEmpty && w.isAssignment then readSimple fuel line (w :: assignments) words redirections
      else readSimple fuel line assignments (w :: words) redirections
    | .arrow d a =>
      let r ← readRedirection fuel d a
      readSimple fuel line assignments words (r :: redirections)
    | .operator .opening =>
      match words, assignments, redirections with
      | [w], [], [] =>
        match ← readToken fuel with
        | .operator .closing =>
          match w.plain? with
          | some name =>
            if isName name && !isSpecialBuiltin name then
              let line := (← get).line
              let body ← readCommand fuel true
              return .define line name body
            else fail "Bad function name"
          | none => fail "Bad function name"
        | t => unexpected t (some ")")
      | _, _, _ => unexpected (.operator .opening) none
    | t =>
      pushBack t
      return .simple line assignments.reverse words.reverse redirections.reverse

end

/-- Reads the commands of the next line; at the end of the script there are none. -/
def readLine : Reader (Option Command) := do
  let fuel := 8 * (← get).rest.length + 64
  let t ← readToken fuel
  match t with
  | .finish => return none
  | _ =>
    pushBack t
    return some (.sequence (← readList fuel .line []))

end JobShell.Script
