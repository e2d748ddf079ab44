import JobShell.Utility.Numeral

/-! # Regular expressions

Basic regular expressions, as programs read them from their arguments. A match at the beginning of a text is
the longest that there is. -/

namespace JobShell.Utility

inductive Regex
  | empty
  /-- A byte in one of the ranges, or in none of them. -/
  | set (inverted : Bool) (ranges : List (UInt8 × UInt8))
  | atStart
  | atEnd
  | group (number : Nat) (inside : Regex)
  /-- What a group has matched. -/
  | again (number : Nat)
  | followed (first second : Regex)
  | either (first second : Regex)
  | times (inside : Regex) (least : Nat) (most : Option Nat)
deriving Repr

namespace Regex

/-! ### Matching -/

/-- A place in a text, with what the groups have matched on the way there. -/
structure Spot where
  rest : Bytes
  groups : List (Nat × Bytes)
deriving Repr

/-- Places without those that lie where an earlier one does. -/
def distinct (spots : List Spot) : List Spot :=
  spots.foldl (fun kept s => if kept.any fun k => k.rest.length = s.rest.length then kept else kept ++ [s]) []

/-- The places that several steps in a row lead to. -/
def iterate (step : Spot → List Spot) : Nat → Nat → Option Nat → Spot → List Spot
  | 0, _, _, s => [s]
  | fuel + 1, least, most, s =>
    let further := if most = some 0 then [] else
      (step s).flatMap fun t =>
        if t.rest.length < s.rest.length then iterate step fuel (least - 1) (most.map (· - 1)) t else [t]
    distinct (further ++ if least = 0 then [s] else [])

/-- The places that an expression leads to in a text of a length, those that are liked better first. -/
def ends (length : Nat) : Regex → Spot → List Spot
  | empty, s => [s]
  | set inverted ranges, s =>
    match s.rest with
    | [] => []
    | b :: rest =>
      if (ranges.any fun r => r.1 ≤ b && b ≤ r.2) != inverted then [{ s with rest }] else []
  | atStart, s => if s.rest.length = length then [s] else []
  | atEnd, s => if s.rest.isEmpty then [s] else []
  | group number inside, s =>
    (ends length inside s).map fun t =>
      let matched := s.rest.take (s.rest.length - t.rest.length)
      { t with groups := (number, matched) :: t.groups.filter (·.1 != number) }
  | again number, s =>
    match s.groups.find? (·.1 == number) with
    | none => []
    | some (_, matched) =>
      if matched.isPrefixOf s.rest then [{ s with rest := s.rest.drop matched.length }] else []
  | followed first second, s => distinct ((ends length first s).flatMap (ends length second))
  | either first second, s => distinct (ends length first s ++ ends length second s)
  | times inside least most, s => iterate (ends length inside) (s.rest.length + least + 1) least most s

/-- The longest match at the beginning of a text: how long it is, and what the groups have matched. -/
def matchStart? (r : Regex) (text : Bytes) : Option (Nat × List (Nat × Bytes)) :=
  (r.ends text.length ⟨text, []⟩).foldl (fun best s =>
    let size := text.length - s.rest.length
    match best with
    | some (longest, groups) => if longest < size then some (size, s.groups) else some (longest, groups)
    | none => some (size, s.groups)) none

/-- Whether there is a match anywhere in a text. -/
def isIn (r : Regex) (text : Bytes) : Bool :=
  (List.range (text.length + 1)).any fun n => !(r.ends text.length ⟨text.drop n, []⟩).isEmpty

/-! ### Reading -/

/-- What is wrong with an expression. -/
inductive Fault
  | pattern
  | bracket
  | className
  | element
  | opening
  | closing
  | brace
  | braceContent
  | reference
  | backslash
  | size
deriving DecidableEq, Repr

/-- What is said about an expression that is wrong. -/
def Fault.message : Fault → Bytes
  | pattern => ascii "Invalid regular expression"
  | bracket => ascii "Unmatched [, [^, [:, [., or [="
  | className => ascii "Invalid character class name"
  | element => ascii "Invalid collation character"
  | opening => ascii "Unmatched ( or \\("
  | closing => ascii "Unmatched ) or \\)"
  | brace => ascii "Unmatched \\\x7b"
  | braceContent => ascii "Invalid content of \\\x7b\\\x7d"
  | reference => ascii "Invalid back reference"
  | backslash => ascii "Trailing backslash"
  | size => ascii "Regular expression too big"

/-- What is left of an expression that is read, and how many groups it has until now. -/
structure Reading where
  rest : Bytes
  groups : Nat
deriving Repr

/-- The ranges of a class. -/
def classRanges? (name : Bytes) : Option (List (UInt8 × UInt8)) :=
  let table : List (String × List (UInt8 × UInt8)) :=
    [("alnum", [(48, 57), (65, 90), (97, 122)]), ("alpha", [(65, 90), (97, 122)]),
     ("blank", [(9, 9), (32, 32)]),
     ("cntrl", [(0, 31), (127, 127)]), ("digit", [(48, 57)]), ("graph", [(33, 126)]), ("lower", [(97, 122)]),
     ("print", [(32, 126)]), ("punct", [(33, 47), (58, 64), (91, 96), (123, 126)]),
     ("space", [(9, 13), (32, 32)]), ("upper", [(65, 90)]), ("xdigit", [(48, 57), (65, 70), (97, 102)])]
  (table.find? fun r => ascii r.1 == name).map (·.2)

/-- Cuts a text at the first mark that is followed by a closing bracket. -/
def untilMark? (mark : UInt8) : Bytes → Option (Bytes × Bytes)
  | b :: c :: rest =>
    if b = mark && c = 93 then some ([], rest)
    else (untilMark? mark (c :: rest)).map fun (inside, behind) => (b :: inside, behind)
  | _ => none

/-- Reads the ranges between brackets; a closing bracket counts as a byte if it is the first. -/
def readRanges : Nat → Bool → Bytes → Except Fault (List (UInt8 × UInt8) × Bytes)
  | 0, _, _ => .error .bracket
  | _, _, [] => .error .bracket
  | fuel + 1, first, b :: rest =>
    if b = 93 && !first then .ok ([], rest)
    else
      let more (ranges : List (UInt8 × UInt8)) (behind : Bytes) :
          Except Fault (List (UInt8 × UInt8) × Bytes) :=
        (readRanges fuel false behind).map fun (more, behind) => (ranges ++ more, behind)
      match b, rest with
      | 91, mark :: inside =>
        if mark = 58 || mark = 46 || mark = 61 then
          match untilMark? mark inside with
          | none => .error .bracket
          | some (name, behind) =>
            if mark = 58 then
              match classRanges? name with
              | some ranges => more ranges behind
              | none => .error .className
            else
              match name with
              | [c] => more [(c, c)] behind
              | _ => .error .element
        else more [(b, b)] rest
      | _, 45 :: c :: behind => if c = 93 then more [(b, b)] rest else more [(b, c)] behind
      | _, _ => more [(b, b)] rest

/-- Reads a bracket expression behind its opening bracket. -/
def readBracket (text : Bytes) : Except Fault (Regex × Bytes) :=
  let (inverted, inside) := match text with
    | 94 :: inside => (true, inside)
    | inside => (false, inside)
  if inside.isEmpty then .error .pattern
  else (readRanges (inside.length + 1) true inside).map fun (ranges, behind) => (set inverted ranges, behind)

/-- The most often that something may be repeated. -/
def repeatLimit : Nat := 32767

/-- Reads how often something may be repeated, behind the opening brace. -/
def readTimes (text : Bytes) : Except Fault (Nat × Option Nat × Bytes) :=
  let wrong : Except Fault (Nat × Option Nat × Bytes) :=
    .error (if text.contains 92 then .braceContent else .brace)
  let ending (least most : Nat) (unbounded : Bool) (behind : Bytes) :
      Except Fault (Nat × Option Nat × Bytes) :=
    if !unbounded && most < least then .error .braceContent
    else if repeatLimit < (if unbounded then least else most) then .error .size
    else .ok (least, if unbounded then none else some most, behind)
  let (least, count, rest) := takeDigits 10 text 0 0
  match rest with
  | 92 :: 125 :: behind => if count = 0 then wrong else ending least least false behind
  | 44 :: rest =>
    let (most, more, rest) := takeDigits 10 rest 0 0
    match rest with
    | 92 :: 125 :: behind => ending least most (more == 0) behind
    | _ => wrong
  | _ => wrong

/-- Applies the repetitions that are written behind an expression. -/
def readRepeats : Nat → Regex → Bytes → Except Fault (Regex × Bytes)
  | 0, r, rest => .ok (r, rest)
  | fuel + 1, r, rest =>
    match rest with
    | 42 :: behind => readRepeats fuel (times r 0 none) behind
    | 92 :: 43 :: behind => readRepeats fuel (times r 1 none) behind
    | 92 :: 63 :: behind => readRepeats fuel (times r 0 (some 1)) behind
    | 92 :: 123 :: behind => do
      let (least, most, behind) ← readTimes behind
      readRepeats fuel (times r least most) behind
    | _ => .ok (r, rest)

/-- One byte. -/
def single (b : UInt8) : Regex := set false [(b, b)]

/-- Whether an expression ends here: at its end, or at the sign of another alternative or of a group's end. -/
def isEnd : Bytes → Bool
  | [] => true
  | 92 :: 124 :: _ => true
  | 92 :: 41 :: _ => true
  | _ => false

mutual

/-- Reads alternatives. -/
def readEither : Nat → Reading → Except Fault (Regex × Reading)
  | 0, _ => .error .pattern
  | fuel + 1, s => do
    let (r, s) ← readFollowed fuel true s
    match s.rest with
    | 92 :: 124 :: rest =>
      let (more, s) ← readEither fuel { s with rest }
      return (either r more, s)
    | _ => return (r, s)

/-- Reads what stands in a row; at the beginning a star is a byte, and a circumflex is not. -/
def readFollowed : Nat → Bool → Reading → Except Fault (Regex × Reading)
  | 0, _, _ => .error .pattern
  | fuel + 1, first, s =>
    if isEnd s.rest then .ok (empty, s)
    else
      match s.rest with
      | 94 :: rest =>
        if first then do
          let (more, s) ← readFollowed fuel true { s with rest }
          return (followed atStart more, s)
        else behind fuel s (single 94) rest
      | 36 :: rest =>
        if isEnd rest then do
          let (more, s) ← readFollowed fuel false { s with rest }
          return (followed atEnd more, s)
        else behind fuel s (single 36) rest
      | 46 :: rest => behind fuel s (set true []) rest
      | 91 :: rest => do
        let (r, rest) ← readBracket rest
        behind fuel s r rest
      | 92 :: 40 :: rest => do
        let number := s.groups + 1
        let (r, s) ← readEither fuel { rest, groups := number }
        match s.rest with
        | 92 :: 41 :: rest => behind fuel s (group number r) rest
        | _ => .error .opening
      | 92 :: b :: rest =>
        if 49 ≤ b && b ≤ 57 then
          let number := b.toNat - 48
          if s.groups < number then .error .reference else behind fuel s (again number) rest
        else behind fuel s (single b) rest
      | [92] => .error .backslash
      | b :: rest => behind fuel s (single b) rest
      | [] => .ok (empty, s)

/-- Reads what stands behind an expression: its repetitions, and what follows. -/
def behind : Nat → Reading → Regex → Bytes → Except Fault (Regex × Reading)
  | 0, _, _, _ => .error .pattern
  | fuel + 1, s, r, rest => do
    let (r, rest) ← readRepeats (rest.length + 1) r rest
    let (more, s) ← readFollowed fuel false { s with rest }
    return (followed r more, s)

end

/-- Reads an expression; the number is that of its groups. -/
def ofBytes (text : Bytes) : Except Fault (Regex × Nat) := do
  let (r, s) ← readEither (4 * text.length + 4) ⟨text, 0⟩
  if s.rest.isEmpty then return (r, s.groups) else .error .closing

end Regex

end JobShell.Utility
