import JobShell.Utility.Numeral
import JobShell.Utility.Options
import JobShell.Utility.Regex

/-! # Programs that copy inputs

`cat` writes its operands one after the other, `tac` writes their lines backwards, `nl` numbers them, and
`tee` copies its input to several files. -/

namespace JobShell.Utility

open Printer

/-! ### One after the other -/

/-- What `cat` makes visible, and which lines it numbers. -/
structure CatOptions where
  number : Bool := false
  /-- Only lines that are not empty are numbered. -/
  numberFilled : Bool := false
  showEnds : Bool := false
  showTabs : Bool := false
  showHidden : Bool := false
  squeeze : Bool := false
deriving DecidableEq, Repr

/-- Where `cat` is in its input. -/
structure CatState where
  /-- The number of the next line. -/
  line : Nat := 1
  /-- How many line ends were seen in a row, up to two, when a line begins. -/
  ends : Option Nat := some 0
  /-- A carriage return that was not yet written. -/
  held : Bool := false
deriving Repr

/-- A byte in a form that can be seen. -/
def visible (b : UInt8) : Bytes :=
  if b < 32 then [94, b + 64]
  else if b < 127 then [b]
  else if b = 127 then [94, 63]
  else if b < 160 then [77, 45, 94, b - 64]
  else if b < 255 then [77, 45, b - 128]
  else [77, 45, 94, 63]

/-- The number in front of a line. -/
def lineNumber (n : Nat) : Bytes :=
  padStart 32 6 (digits n) ++ [9]

/-- What is written for one byte of an input. -/
def CatState.next (o : CatOptions) (s : CatState) (b : UInt8) : CatState × Bytes :=
  let numbers := o.number || o.numberFilled
  if b = 10 then
    let mark := (if s.held then [94, 77] else []) ++ (if o.showEnds then [36] else []) ++ [10]
    match s.ends with
    | none => ({ s with ends := some 0, held := false }, mark)
    | some n =>
      if o.squeeze && 1 ≤ n then ({ s with ends := some 1 }, [])
      else if numbers && !o.numberFilled then
        ({ s with line := s.line + 1, ends := some 1, held := false }, lineNumber s.line ++ mark)
      else ({ s with ends := some 1, held := false }, mark)
  else
    let before := if s.held then [13] else []
    let (s, front) :=
      if numbers && s.ends.isSome then ({ s with line := s.line + 1 }, lineNumber s.line) else (s, [])
    if b = 13 && o.showEnds && !o.showHidden then
      ({ s with ends := none, held := true }, before ++ front)
    else
      let shown :=
        if b = 9 then if o.showTabs then [94, 73] else [9]
        else if o.showHidden then visible b
        else [b]
      ({ s with ends := none, held := false }, before ++ front ++ shown)

/-- What is written for a block of an input. -/
def CatState.run (o : CatOptions) (s : CatState) (block : Bytes) : CatState × Bytes :=
  let (s, shown) := block.foldl (fun (s, shown) b =>
    let (s, more) := s.next o b
    (s, more :: shown)) (s, ([] : List Bytes))
  (s, shown.reverse.flatten)

def catRows : List OptionRow :=
  [⟨some 'b', ["number-nonblank"], .nothing⟩, ⟨some 'n', ["number"], .nothing⟩,
   ⟨some 's', ["squeeze-blank"], .nothing⟩, ⟨some 'v', ["show-nonprinting"], .nothing⟩,
   ⟨some 'E', ["show-ends"], .nothing⟩, ⟨some 'T', ["show-tabs"], .nothing⟩,
   ⟨some 'A', ["show-all"], .nothing⟩] ++
    letters "etu"

/-- The options of `cat` that were given. -/
def catOptions (a : Arguments) : CatOptions :=
  { number := a.has "n"
    numberFilled := a.has "b"
    showEnds := a.has "A" || a.has "e" || a.has "E"
    showTabs := a.has "A" || a.has "t" || a.has "T"
    showHidden := a.has "A" || a.has "e" || a.has "t" || a.has "v"
    squeeze := a.has "s" }

/-- Whether copying an input to the standard output would not end, as both are one file. -/
def feedsItself (d : Descriptor) : Printer Bool := do
  let source ← serve (.describe d)
  let target ← serve (.describe 1)
  match source, target with
  | .ok source, .ok target =>
    return source.node.isSome && source.node == target.node && source.kind == .file &&
      (target.appends && source.offset < source.size || source.offset < target.offset)
  | _, _ => return false

/-- Copies one operand to the standard output. -/
def catOperand (o : CatOptions) (s : CatState) (path : Bytes) : Printer (Bool × CatState) := do
  match ← openOperand path with
  | .error e =>
    complainOf (fileName path) e
    return (false, s)
  | .ok d =>
    if ← feedsItself d then
      complain (fileName path ++ ascii ": input file is output file")
      closeOperand d
      return (false, s)
    else
      let (result, s) ← repeated (fun (s : CatState) => do
        match ← perform (.read d blockSize) with
        | .error e => return .inr (some e, s)
        | .ok [] => return .inr (none, s)
        | .ok block =>
          if o = {} then
            say block
            flush
            return .inl s
          else
            let (s, shown) := s.run o block
            say shown
            flush
            return .inl s) s
      closeOperand d
      match result with
      | none => return (true, s)
      | some e =>
        complainOf (fileName path) e
        return (false, s)

def cat : Utility := printing 1 fun args => do
  let a := Arguments.read catRows args
  a.check 1
  let o := catOptions a
  let (well, s) ← (operandsOr a.operands).foldlM (fun (well, s) path => do
    let (more, s) ← catOperand o s path
    return (well && more, s)) (true, ({} : CatState))
  if s.held then say [13]
  return codeOf well

/-! ### Backwards -/

/-- Cuts an input behind each separator; the last piece may end without one. -/
def cutBehind (separator : Bytes) : Nat → Bytes → Bytes → List Bytes
  | 0, current, bytes => [current.reverse ++ bytes]
  | _, [], [] => []
  | _, current, [] => [current.reverse]
  | fuel + 1, current, b :: rest =>
    if separator.isPrefixOf (b :: rest) then
      (current.reverse ++ separator) :: cutBehind separator fuel [] ((b :: rest).drop separator.length)
    else cutBehind separator fuel (b :: current) rest

/-- Cuts an input in front of each separator. -/
def cutBefore (separator : Bytes) : Nat → Bytes → Bytes → List Bytes
  | 0, current, bytes => [current.reverse ++ bytes]
  | _, [], [] => []
  | _, current, [] => [current.reverse]
  | fuel + 1, current, b :: rest =>
    if separator.isPrefixOf (b :: rest) then
      let more := cutBefore separator fuel separator.reverse ((b :: rest).drop separator.length)
      if current.isEmpty then more else current.reverse :: more
    else cutBefore separator fuel (b :: current) rest

def tacRows : List OptionRow :=
  [⟨some 'b', ["before"], .nothing⟩, ⟨some 'r', ["regex"], .nothing⟩, ⟨some 's', ["separator"], .value⟩]

def tac : Utility := printing 1 fun args => do
  let a := Arguments.read tacRows args
  a.check 1
  let separator := match a.value? "s" with
    | none => [10]
    | some [] => [0]
    | some separator => separator
  let well ← all (operandsOr a.operands) fun path => do
    match ← openOperand path with
    | .error e =>
      complainOf (ascii "failed to open " ++ shellQuoted path ++ ascii " for reading") e
      return false
    | .ok d =>
      let result ← readAll d
      closeOperand d
      match result with
      | .error e =>
        complainOf ((if path = ascii "-" then ascii "'standard input'" else fileName path) ++
          ascii ": read error") (if e = .isDirectory then .invalid else e)
        return false
      | .ok bytes =>
        let cut := if a.has "b" then cutBefore else cutBehind
        say (cut separator (bytes.length + 1) [] bytes).reverse.flatten
        return true
  return codeOf well

/-! ### Numbers -/

/-- Which lines are numbered. -/
inductive NumberStyle
  | all
  /-- Those that are not empty. -/
  | filled
  | none
  /-- Those with a match in them. -/
  | matching (r : Regex)

/-- The style that a text stands for. -/
def NumberStyle.read? (text : Bytes) : Option NumberStyle :=
  match text.map charOf with
  | ['a'] => some .all
  | ['t'] => some .filled
  | ['n'] => some .none
  | 'p' :: _ => (Regex.ofBytes text.tail).toOption.map fun r => .matching r.1
  | _ => Option.none

/-- Whether a line is numbered. -/
def NumberStyle.takes (s : NumberStyle) (line : Bytes) : Bool :=
  match s with
  | all => true
  | filled => !line.isEmpty
  | none => false
  | matching r => r.isIn line

/-- How the lines of an input are numbered. -/
structure NumberOptions where
  style : NumberStyle := .filled
  start : Int := 1
  step : Int := 1
  width : Nat := 6
  separator : Bytes := [9]
  format : Bytes := ascii "rn"

/-- The number in front of a line. -/
def NumberOptions.show (o : NumberOptions) (n : Int) : Bytes :=
  let text := (Text.ofInt n).encode
  if o.format = ascii "ln" then padEnd o.width text
  else if o.format = ascii "rz" then
    if n < 0 then 45 :: padStart 48 (o.width - 1) text.tail else padStart 48 o.width text
  else padStart 32 o.width text

/-- Writes lines with their numbers; the answer is the next number. -/
def numberLines (o : NumberOptions) (n : Int) : List Bytes → Printer Int
  | [] => return n
  | line :: rest => do
    if line = ascii "\\:\\:\\:" || line = ascii "\\:\\:" || line = ascii "\\:" then
      say [10]
      numberLines o (if line = ascii "\\:\\:\\:" then o.start else n) rest
    else if o.style.takes line then
      say (o.show n ++ o.separator ++ line ++ [10])
      numberLines o (n + o.step) rest
    else
      say (List.replicate (o.width + o.separator.length) 32 ++ line ++ [10])
      numberLines o n rest

def nlRows : List OptionRow :=
  [⟨some 'b', ["body-numbering"], .value⟩, ⟨some 'd', ["section-delimiter"], .value⟩,
   ⟨some 'f', ["footer-numbering"], .value⟩, ⟨some 'h', ["header-numbering"], .value⟩,
   ⟨some 'i', ["line-increment"], .value⟩, ⟨some 'l', ["join-blank-lines"], .value⟩,
   ⟨some 'n', ["number-format"], .value⟩, ⟨some 'p', ["no-renumber"], .nothing⟩,
   ⟨some 's', ["number-separator"], .value⟩, ⟨some 'v', ["starting-line-number"], .value⟩,
   ⟨some 'w', ["number-width"], .value⟩]

/-- Applies an option of `nl`. -/
def nlOption (o : NumberOptions) (g : Given) : Printer NumberOptions := do
  let value := g.value.getD []
  match g.key with
  | "b" =>
    match NumberStyle.read? value with
    | some style => return { o with style }
    | none => misuse 1 (ascii "invalid body numbering style: " ++ quoted value)
  | "i" =>
    match readInt? value with
    | some step => return { o with step }
    | none => die 1 (ascii "invalid line number increment: " ++ quoted value)
  | "v" =>
    match readInt? value with
    | some start => return { o with start }
    | none => die 1 (ascii "invalid starting line number: " ++ quoted value)
  | "w" =>
    match readNat? value with
    | some (width + 1) => return { o with width := width + 1 }
    | _ => die 1 (ascii "invalid line number field width: " ++ quoted value ++
        ascii (if readNat? value = some 0 then ": Numerical result out of range" else ""))
  | "s" => return { o with separator := value }
  | "n" =>
    if [ascii "ln", ascii "rn", ascii "rz"].contains value then return { o with format := value }
    else misuse 1 (ascii "invalid line numbering format: " ++ quoted value)
  | _ => return o

def nl : Utility := printing 1 fun args => do
  let a := Arguments.read nlRows args
  let o ← a.given.foldlM nlOption {}
  a.check 1
  let (well, _) ← (operandsOr a.operands).foldlM (fun (well, n) path => do
    match ← readOperand path with
    | .error e =>
      complainOf (fileName path) e
      return (false, n)
    | .ok bytes =>
      let n ← numberLines o n (linesOf bytes)
      return (well, n)) (true, o.start)
  return codeOf well

/-! ### Several copies -/

def teeRows : List OptionRow :=
  [⟨some 'a', ["append"], .nothing⟩, ⟨some 'i', ["ignore-interrupts"], .nothing⟩, ⟨some 'p', [], .nothing⟩,
   ⟨none, ["output-error"], .maybe⟩]

/-- Writes a block to one of the copies, and says whether this went well. -/
def teeBlock (block : Bytes) (copy : Bytes × Descriptor) : Printer Bool := fun out => do
  match ← Stream.write copy.2 block with
  | .ok _ => return (true, out)
  | .error e =>
    Printer.warnAs out (fileName copy.1 ++ ascii ": " ++ e.libraryText.encode)
    return (false, out)

def tee : Utility := printing 1 fun args => do
  let a := Arguments.read teeRows args
  a.check 1
  let choices := ["warn", "warn-nopipe", "exit", "exit-nopipe"]
  if let some choice := a.value? "output-error" then
    if !choices.any fun c => choice.isPrefixOf (ascii c) then
      misuse 1 (invalidChoice "--output-error" choices choice)
  if a.has "i" then serve (.react 2 .ignore)
  let access := if a.has "a" then Access.appending 0o666 else Access.replacing 0o666
  let opened ← a.operands.mapM fun path => do
    match ← perform (.openFile path access) with
    | .ok d => return some (path, d)
    | .error e =>
      complainOf (fileName path) e
      return none
  let copies := (ascii "standard output", 1) :: opened.filterMap id
  let well ← repeated (fun ((well, copies) : Bool × List (Bytes × Descriptor)) => do
    if copies.isEmpty then return .inr well
    else
      match ← perform (.read 0 blockSize) with
      | .error e =>
        complainOf (ascii "read error") e
        return .inr false
      | .ok [] => return .inr well
      | .ok block =>
        let left ← copies.filterM (teeBlock block)
        return .inl (well && left.length = copies.length, left)) (opened.all (·.isSome), copies)
  return codeOf well

end JobShell.Utility
