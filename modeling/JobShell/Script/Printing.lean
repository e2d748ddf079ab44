import JobShell.Script.Scope
import JobShell.Utility.Printf

/-! # The builtins `echo` and `printf`

The builtins that write their arguments. Unlike the programs of these names, `echo` always reads escapes. -/

namespace JobShell.Script

open Utility (ascii charOf digitValue? takeSome letterEscape? Directive NumberFault)

/-- The byte that an escape stands for, and what is behind it; the text is what follows the backslash. -/
def escape (text : Bytes) : UInt8 × Bytes :=
  match text with
  | [] => (92, [])
  | b :: rest =>
    if (digitValue? 8 b).isSome then
      let (n, rest) := takeSome 8 3 0 (b :: rest)
      (UInt8.ofNat n, rest)
    else if b = 92 then (92, rest)
    else
      match letterEscape? b with
      | some c => if b = 101 then (92, b :: rest) else (c, rest)
      | none => (92, b :: rest)

/-- A text with its escapes read. The flag says whether the text goes on, as `\c` ends it. -/
def escapes : Nat → Bytes → Bytes × Bool
  | fuel + 1, 92 :: rest =>
    match rest with
    | 99 :: _ => ([], false)
    | 48 :: d :: _ =>
      let (b, behind) := escape (if (digitValue? 8 d).isSome then rest.tail else rest)
      let (more, goesOn) := escapes fuel behind
      (b :: more, goesOn)
    | _ =>
      let (b, behind) := escape rest
      let (more, goesOn) := escapes fuel behind
      (b :: more, goesOn)
  | fuel + 1, b :: rest =>
    let (more, goesOn) := escapes fuel rest
    (b :: more, goesOn)
  | _, rest => (rest, true)

/-- The builtin `echo`. -/
def echoBuiltin (argv : List Bytes) : Run Int := do
  let (newline, args) := match argv.tail with
    | first :: rest => if first = ascii "-n" then (false, rest) else (true, first :: rest)
    | [] => (true, [])
  let line := [32].intercalate args
  let (shown, goesOn) := escapes (line.length + 1) line
  Run.write (if newline && goesOn then shown ++ [10] else shown)
  return 0

/-! ### Formats -/

/-- What a format has left to use, and the status until now. -/
structure FormatState where
  args : List Bytes
  status : Int := 0

/-- The next argument, if there is one. -/
def FormatState.take (s : FormatState) : Option Bytes × FormatState :=
  (s.args.head?, { s with args := s.args.tail })

/-- Says what is wrong with a number. -/
def noteFault (s : FormatState) (text : Bytes) : Option NumberFault → Run FormatState
  | none | some (.behindCharacter _) => return s
  | some fault => do
    let why := match fault with
      | .notNumeric => "expected numeric value"
      | .range => "Numerical result out of range"
      | _ => "not completely converted"
    Run.warn (text ++ ascii ": " ++ ascii why)
    return { s with status := 1 }

/-- Reads a width or a precision. -/
def readField (s : FormatState) (text : Bytes) : Run (Int × FormatState × Bytes) := do
  match text with
  | 42 :: rest =>
    let (arg, s) := s.take
    let (n, fault) := Utility.integerArgument false (arg.getD [])
    let s ← noteFault s (arg.getD []) fault
    return (n, s, rest)
  | _ =>
    let (n, _, rest) := Utility.takeDigits 10 text 0 0
    return (n, s, rest)

/-- Writes an argument as a directive says. The flag says whether the output goes on. -/
def writeDirective (d : Directive) (s : FormatState) : Run (FormatState × Bool) := do
  let (arg, s) := s.take
  let text := arg.getD []
  match d.conversion with
  | 'b' =>
    let (shown, goesOn) := escapes (text.length + 1) text
    Run.write (d.formatText shown)
    return (s, goesOn)
  | 's' =>
    Run.write (d.formatText text)
    return (s, true)
  | 'c' =>
    Run.write (d.pad [text.headD 0])
    return (s, true)
  | 'd' | 'i' =>
    let (n, fault) := Utility.integerArgument false text
    let s ← noteFault s text fault
    Run.write (d.formatInt n)
    return (s, true)
  | 'o' | 'u' | 'x' | 'X' =>
    let (n, fault) := Utility.integerArgument true text
    let s ← noteFault s text fault
    Run.write (d.formatNat n.toNat)
    return (s, true)
  | _ =>
    let (x, fault) := Utility.fractionArgument text
    let s ← noteFault s text fault
    Run.write (d.formatFraction 53 x)
    return (s, true)

/-- Reads a directive behind its percent sign, and writes what it asks for. -/
def writeNext (s : FormatState) (text : Bytes) : Run (FormatState × Bytes × Bool) := do
  let (d, rest) := Utility.readFlags {} text
  let (width, s, rest) ← readField s rest
  let d : Directive := { d with left := d.left || width < 0, width := width.natAbs }
  let (d, s, rest) ← match rest with
    | 46 :: rest => do
      let (precision, s, rest) ← readField s rest
      pure ({ d with precision := if precision < 0 then none else some precision.toNat }, s, rest)
    | _ => pure (d, s, rest)
  match rest with
  | [] => Run.fail (ascii "missing format character")
  | b :: behind =>
    if "bcsdiouxXaAeEfFgG".toList.contains (charOf b) then
      let (s, goesOn) ← writeDirective { d with conversion := charOf b } s
      return (s, behind, goesOn)
    else
      Run.fail (37 :: text.take (text.length - behind.length) ++ ascii ": invalid directive")

/-- Writes a format once. The flag says whether the output goes on. -/
def writeFormat : Nat → FormatState → Bytes → Run (FormatState × Bool)
  | fuel + 1, s, 92 :: rest => do
    let (b, rest) := escape rest
    Run.write [b]
    writeFormat fuel s rest
  | fuel + 1, s, 37 :: 37 :: rest => do
    Run.write [37]
    writeFormat fuel s rest
  | fuel + 1, s, 37 :: rest => do
    let (s, rest, goesOn) ← writeNext s rest
    if goesOn then writeFormat fuel s rest else return (s, false)
  | fuel + 1, s, b :: rest => do
    Run.write [b]
    writeFormat fuel s rest
  | _, s, _ => return (s, true)

/-- Writes a format as often as there are arguments for it. -/
def writeFormats (format : Bytes) : Nat → FormatState → Run Int
  | 0, s => return s.status
  | fuel + 1, s => do
    let (after, goesOn) ← writeFormat (format.length + 1) s format
    if !goesOn || after.args.isEmpty || after.args.length = s.args.length then return after.status
    else writeFormats format fuel after

/-- The builtin `printf`. -/
def printfBuiltin (argv : List Bytes) : Run Int := do
  let args := if argv.tail.head? = some (ascii "--") then argv.tail.tail else argv.tail
  match args with
  | [] => Run.fail (ascii "usage: printf format [arg ...]")
  | format :: args => writeFormats format (args.length + 1) { args }

end JobShell.Script
