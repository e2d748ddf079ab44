import JobShell.Utility.Basic
import JobShell.Utility.Regex

/-! # Patterns

Patterns stand for texts: a star for any text, a question mark for any byte, brackets for one of several
bytes. What is quoted stands for itself. A word with a pattern in it stands for the paths that match it. -/

namespace JobShell.Script

open Utility (ascii compareBytes before)

/-- A byte of a word, and whether it was quoted. -/
structure Mark where
  byte : UInt8
  quoted : Bool
deriving DecidableEq, Repr

/-- A part of a pattern. -/
inductive Glob
  | byte (b : UInt8)
  | any
  | star
  /-- A byte in one of the ranges, or in none of them. -/
  | set (inverted : Bool) (ranges : List (UInt8 × UInt8))
deriving DecidableEq, Repr

namespace Glob

/-- Reads the ranges between brackets; a closing bracket counts as a byte if it is the first. -/
def readRanges : Nat → Bool → List Mark → Option (List (UInt8 × UInt8) × List Mark)
  | 0, _, _ => none
  | _, _, [] => none
  | fuel + 1, first, m :: rest =>
    if m.byte = 93 && !m.quoted && !first then some ([], rest)
    else
      let more (ranges : List (UInt8 × UInt8)) (rest : List Mark) :=
        (readRanges fuel false rest).map fun (others, behind) => (ranges ++ others, behind)
      match rest with
      | dash :: last :: behind =>
        let isClass := m.byte = 91 && !m.quoted && dash.byte = 58
        let name := (rest.tail.map (·.byte)).takeWhile (· != 58)
        match isClass, Utility.Regex.classRanges? name, rest.drop (name.length + 1) with
        | true, some ranges, colon :: bracket :: behind =>
          if colon.byte = 58 && bracket.byte = 93 then more ranges behind else more [(m.byte, m.byte)] rest
        | _, _, _ =>
          if dash.byte = 45 && !dash.quoted && !(last.byte = 93 && !last.quoted) then
            more [(m.byte, last.byte)] behind
          else more [(m.byte, m.byte)] rest
      | _ => more [(m.byte, m.byte)] rest

/-- Reads a set behind its opening bracket. -/
def readSet? (marks : List Mark) : Option (Glob × List Mark) :=
  let (inverted, inside) := match marks with
    | m :: inside => if (m.byte = 33 || m.byte = 94) && !m.quoted then (true, inside) else (false, marks)
    | [] => (false, [])
  (readRanges (inside.length + 1) true inside).map fun (ranges, behind) => (set inverted ranges, behind)

/-- Reads a pattern. -/
def ofMarks : Nat → List Mark → List Glob
  | 0, _ => []
  | _, [] => []
  | fuel + 1, m :: rest =>
    if m.quoted then byte m.byte :: ofMarks fuel rest
    else
      match m.byte.toNat with
      | 42 => star :: ofMarks fuel rest
      | 63 => any :: ofMarks fuel rest
      | 91 =>
        match readSet? rest with
        | some (g, behind) => g :: ofMarks fuel behind
        | none => byte 91 :: ofMarks fuel rest
      | 92 =>
        match rest with
        | next :: behind => byte next.byte :: ofMarks fuel behind
        | [] => [byte 92]
      | _ => byte m.byte :: ofMarks fuel rest

/-- Whether a text is what a pattern stands for. -/
def isMatch : List Glob → Bytes → Bool
  | [], text => text.isEmpty
  | star :: rest, text => (List.range (text.length + 1)).any fun n => isMatch rest (text.drop n)
  | any :: rest, _ :: text => isMatch rest text
  | byte b :: rest, c :: text => b == c && isMatch rest text
  | set inverted ranges :: rest, c :: text =>
    (ranges.any fun r => r.1 ≤ c && c ≤ r.2) != inverted && isMatch rest text
  | _, [] => false

end Glob

/-- The pattern that a word is. -/
def patternOf (marks : List Mark) : List Glob :=
  Glob.ofMarks (marks.length + 1) marks

/-- Whether a text matches the pattern that a word is. -/
def matchesWord (marks : List Mark) (text : Bytes) : Bool :=
  Glob.isMatch (patternOf marks) text

/-- A text without the part at its beginning or its end that matches a pattern. -/
def trimmed (marks : List Mark) (atEnd longest : Bool) (text : Bytes) : Bytes :=
  let pattern := patternOf marks
  let sizes := List.range (text.length + 1)
  let sizes := if longest then sizes.reverse else sizes
  let found := sizes.find? fun n =>
    Glob.isMatch pattern (if atEnd then text.drop (text.length - n) else text.take n)
  match found with
  | some n => if atEnd then text.take (text.length - n) else text.drop n
  | none => text

/-! ### Paths -/

/-- Whether a word may stand for paths. -/
def isPattern (marks : List Mark) : Bool :=
  marks.any fun m => !m.quoted && [42, 63, 91].contains m.byte

/-- The names on the path that a word is, each with the slashes behind it. -/
def pathParts (marks : List Mark) : Nat → List (List Mark × Bytes)
  | 0 => []
  | fuel + 1 =>
    if marks.isEmpty then []
    else
      let name := marks.takeWhile (·.byte != 47)
      let behind := marks.drop name.length
      let slashes := behind.takeWhile (·.byte == 47)
      (name, slashes.map (·.byte)) :: pathParts (behind.drop slashes.length) fuel

/-- The names in a directory that match a pattern; those that begin with a dot only if the pattern does. -/
def matchingNames (directory : Bytes) (pattern : List Glob) : Prog (List Bytes) := do
  let path := if directory.isEmpty then [46] else directory
  match ← Prog.perform (.service (.list path)) with
  | .error _ => return []
  | .ok names =>
    let dotted := pattern.head? == some (.byte 46)
    return (([46] : Bytes) :: [46, 46] :: names).filter fun name =>
      (name.head? != some 46 || dotted) && Glob.isMatch pattern name

/-- The paths that names stand for, behind the path of a directory. -/
def expandPath : Bytes → List (List Mark × Bytes) → Prog (List Bytes)
  | front, [] => do
    match ← Prog.perform (.service (.inspect front false)) with
    | .ok _ => return [front]
    | .error _ => return []
  | front, (name, slashes) :: rest => do
    if !isPattern name then expandPath (front ++ name.map (·.byte) ++ slashes) rest
    else
      let names ← matchingNames front (patternOf name)
      let found ← names.mapM fun name => expandPath (front ++ name ++ slashes) rest
      return found.flatten

/-- The paths that a word stands for, in order; without any it stands for itself. -/
def expandPattern (marks : List Mark) : Prog (List Bytes) := do
  let plain := marks.map (·.byte)
  if !isPattern marks then return [plain]
  else
    match ← expandPath [] (pathParts marks (marks.length + 1)) with
    | [] => return [plain]
    | found => return found.mergeSort before

end JobShell.Script
