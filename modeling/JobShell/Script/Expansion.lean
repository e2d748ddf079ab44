import JobShell.Script.Arithmetic
import JobShell.Script.Pattern
import JobShell.Script.Scope

/-! # Expansion

What the words of a script stand for: the values of parameters, the output of commands and the values of
expressions take their places; then what was not quoted is split into fields, and fields that are patterns
stand for paths. -/

namespace JobShell.Script

open Utility (ascii digits byte)

/-- A byte of an expanded word. One that `splits` may separate fields. -/
inductive Atom
  | byte (b : UInt8) (quoted splits : Bool)
  /-- There is a field here, even if it is empty. -/
  | mark
  /-- A field ends here. -/
  | gap
deriving DecidableEq, Repr

/-! ### Fields -/

/-- Whether a byte separates fields, but not empty ones. -/
def isSoft (b : UInt8) : Bool :=
  usualSeparators.contains b

/-- Goes on behind a separator: behind soft ones, and one that is not if the first was soft. -/
def skipSeparators (separators : Bytes) : Bool → List Atom → List Atom
  | soft, .byte b quoted true :: rest =>
    if !separators.contains b then .byte b quoted true :: rest
    else if isSoft b then skipSeparators separators soft rest
    else if soft then skipSeparators separators false rest
    else .byte b quoted true :: rest
  | _, rest => rest

/-- Splits an expanded word into fields; the field that is built stands backwards. -/
def splitFields (separators : Bytes) : Nat → List Mark → Bool → List Atom → List (List Mark)
  | 0, _, _, _ => []
  | _, built, started, [] => if started then [built.reverse] else []
  | fuel + 1, built, _, .mark :: rest => splitFields separators fuel built true rest
  | fuel + 1, built, started, .gap :: rest =>
    let more := splitFields separators fuel [] false rest
    if started then built.reverse :: more else more
  | fuel + 1, built, started, .byte b quoted splits :: rest =>
    if splits && separators.contains b then
      if !started && isSoft b then splitFields separators fuel [] false rest
      else built.reverse :: splitFields separators fuel [] false (skipSeparators separators (isSoft b) rest)
    else splitFields separators fuel (⟨b, quoted⟩ :: built) true rest

/-- The bytes of an expanded word that is not split. -/
def joined (atoms : List Atom) : List Mark :=
  atoms.filterMap fun
    | .byte b quoted _ => some ⟨b, quoted⟩
    | .mark => none
    | .gap => some ⟨32, false⟩

/-- Marks without their quotes. -/
def bytesOf (marks : List Mark) : Bytes :=
  marks.map (·.byte)

/-! ### Parameters -/

/-- A text in an expanded word. -/
def atomsOf (quoted : Bool) (text : Bytes) : List Atom :=
  text.map fun b => .byte b quoted !quoted

/-- All arguments in an expanded word; quoted ones are fields of their own, unless they are to be one text. -/
def argumentAtoms (s : Scope) (together quoted : Bool) : List Atom :=
  if quoted && together then
    let separator := match s.value? (ascii "IFS") with
      | none => [32]
      | some separators => separators.take 1
    atomsOf true (separator.intercalate s.args)
  else
    let field (arg : Bytes) : List Atom := (if quoted then [.mark] else []) ++ atomsOf quoted arg
    ((s.args.map field).intersperse [.gap]).flatten

/-- The value of a parameter that is not all arguments. -/
def Scope.parameter? (s : Scope) (name : Bytes) : Option Bytes :=
  match name.map Utility.charOf with
  | ['?'] => some (Text.ofInt s.status).encode
  | ['$'] => some (Text.ofInt s.pid).encode
  | ['#'] => some (digits s.args.length)
  | ['!'] => s.last.map fun pid => (Text.ofInt pid).encode
  | ['-'] => some ((s.options.filter Char.isAlpha).map byte)
  | _ =>
    match Utility.readNat? name with
    | some 0 => some s.name
    | some (n + 1) => s.args[n]?
    | none => s.value? name

/-- Whether a parameter is all arguments. -/
def isAllArguments (name : Bytes) : Bool :=
  name == [64] || name == [42]

/-- What a parameter is in an expanded word. -/
def Scope.atoms? (s : Scope) (name : Bytes) (quoted : Bool) : Option (List Atom) :=
  if isAllArguments name then
    if s.args.isEmpty then none else some (argumentAtoms s (name == [42]) quoted)
  else (s.parameter? name).map (atomsOf quoted)

/-- The directory that is meant by a tilde and a name. -/
def homeOf? (s : Scope) (name : Bytes) : Option Bytes :=
  if name.isEmpty then s.value? (ascii "HOME")
  else if name = ascii "root" then some (ascii "/root")
  else none

/-- A text that may begin with a tilde; `lists` says that a colon ends the name of a user. -/
def expandTilde (s : Scope) (splits lists atEnd : Bool) (text : Bytes) : List Atom :=
  let plain (text : Bytes) : List Atom := text.map fun b => .byte b false splits
  match text with
  | 126 :: rest =>
    let name := rest.takeWhile fun b => b != 47 && !(lists && b == 58)
    if name.length = rest.length && !atEnd then plain text
    else
      match homeOf? s name with
      | some home => atomsOf true home ++ plain (rest.drop name.length)
      | none => plain text
  | _ => plain text

/-- The texts between the colons of a text. -/
def expandTildes (s : Scope) (atEnd : Bool) (text : Bytes) : List Atom :=
  let pieces := text.splitOnP (· == 58)
  let shown := (pieces.zip (List.range pieces.length)).map fun (piece, i) =>
    expandTilde s false true (i + 1 < pieces.length || atEnd) piece
  (shown.intersperse [.byte 58 false false]).flatten

/-- Where tildes mean directories in a word. -/
inductive Tilde
  | nowhere
  | atStart
  /-- Behind the first equals sign, and behind colons. -/
  | inLists
deriving DecidableEq, Repr

/-! ### Words -/

/-- The output of commands without the line ends at its end. -/
def withoutLineEnds (output : Bytes) : Bytes :=
  ((output.filter (· != 0)).reverse.dropWhile (· == 10)).reverse

/-- How a word is expanded. -/
structure Style where
  tilde : Tilde := .nowhere
  /-- Text that is not quoted may separate fields. -/
  splits : Bool := false

mutual

/-- Expands a word. The output of commands is known by `run`. -/
def expandParts (run : List Command → Run Bytes) (style : Style) : Nat → Bool → Word → Run (List Atom)
  | 0, _, _ => return []
  | _, _, [] => return []
  | fuel + 1, first, p :: rest => do
    let atoms ← match p with
      | .text text false => do
        let s ← get
        match style.tilde with
        | .nowhere => pure (text.map fun b => .byte b false style.splits)
        | .atStart =>
          if first then pure (expandTilde s style.splits false rest.isEmpty text)
          else pure (text.map fun b => .byte b false style.splits)
        | .inLists =>
          let front := if first then text.takeWhile (· != 61) ++ [61] else text.takeWhile (· != 58)
          pure (atomsOf true front ++ expandTildes s rest.isEmpty (text.drop front.length))
      | .text text true => pure (atomsOf true text)
      | .mark => pure [.mark]
      | .parameter name form inside quoted => expandParameter run fuel name form inside quoted
      | .output commands quoted => do
        let output ← run commands
        pure (atomsOf quoted (withoutLineEnds output))
      | .arithmetic inside quoted => do
        let atoms ← expandParts run {} fuel true inside
        let text := bytesOf (joined atoms)
        let s ← get
        match Arithmetic.evaluate (fun name => (s.parameter? name).getD []) text with
        | .error e => Run.fail (e.message text)
        | .ok (n, changes) =>
          changes.reverse.forM fun (name, value) => setVariable name value false
          pure (atomsOf quoted (Text.ofInt n).encode)
    let more ← expandParts run style fuel false rest
    return atoms ++ more

/-- Expands a parameter. -/
def expandParameter (run : List Command → Run Bytes) :
    Nat → Bytes → Form → List Part → Bool → Run (List Atom)
  | 0, _, _, _, _ => return []
  | fuel + 1, name, form, inside, quoted => do
    let s ← get
    let value := s.atoms? name quoted
    let other : Run (List Atom) := expandParts run { tilde := .atStart, splits := !quoted } fuel true inside
    match form with
    | .bad => Run.fail (ascii "Bad substitution")
    | .plain =>
      match value with
      | some atoms => return atoms
      | none =>
        if s.has 'u' && !isAllArguments name then Run.fail (name ++ ascii ": parameter not set")
        else return []
    | .length =>
      if value.isNone && s.has 'u' && !isAllArguments name then
        Run.fail (name ++ ascii ": parameter not set")
      else
        let text := bytesOf (joined (value.getD []))
        return atomsOf quoted (digits text.length)
    | .alternative operator orEmpty =>
      let isSet := match value with
        | none => false
        | some atoms => !(orEmpty && (joined atoms).isEmpty)
      match operator with
      | '+' => if isSet then other else return []
      | '-' => if isSet then return value.getD [] else other
      | '=' =>
        if isSet then return value.getD []
        else
          let text := bytesOf (joined (← other))
          if isName name then
            setVariable name text false
            return atomsOf quoted text
          else Run.fail (name ++ ascii ": bad variable name")
      | _ =>
        if isSet then return value.getD []
        else
          let text := bytesOf (joined (← other))
          let message :=
            if inside.isEmpty then ascii "parameter not set" ++ (if orEmpty then ascii " or null" else [])
            else text
          Run.fail (name ++ ascii ": " ++ message)
    | .trim atEnd longest =>
      match value with
      | none =>
        if s.has 'u' && !isAllArguments name then Run.fail (name ++ ascii ": parameter not set")
        else return []
      | some atoms =>
        let pattern := joined (← expandParts run { tilde := .atStart } fuel true inside)
        return atomsOf quoted (trimmed pattern atEnd longest (bytesOf (joined atoms)))

end

/-- How deep the words of a script can be in one another, and how many parts they can have. -/
def wordDepth : Nat := 100000

/-- The fields that a word stands for. -/
def expandFields (run : List Command → Run Bytes) (w : Word) : Run (List Bytes) := do
  let atoms ← expandParts run { tilde := .atStart } wordDepth true w
  let s ← get
  let fields := splitFields s.separators (atoms.length + 1) [] false atoms
  if s.has 'f' then return fields.map bytesOf
  else
    let found ← fields.mapM fun marks => Run.lift (expandPattern marks)
    return found.flatten

/-- The one text that a word stands for. -/
def expandText (run : List Command → Run Bytes) (tilde : Tilde) (w : Word) : Run Bytes := do
  return bytesOf (joined (← expandParts run { tilde } wordDepth true w))

/-- The pattern that a word stands for. -/
def expandMarks (run : List Command → Run Bytes) (w : Word) : Run (List Mark) := do
  return joined (← expandParts run { tilde := .atStart } wordDepth true w)

end JobShell.Script
