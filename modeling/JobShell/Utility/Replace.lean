import JobShell.Utility.Numeral
import JobShell.Utility.Options

/-! # Replacing characters

`tr` changes, deletes and squeezes the bytes of its input. Which bytes are meant is said by sets: bytes,
ranges, classes, and repetitions of a byte. -/

namespace JobShell.Utility

open Printer

/-! ### Sets -/

/-- A part of a set. -/
inductive SetPart
  | bytes (all : Bytes)
  /-- The small or the capital letters, which change into one another. -/
  | letters (upper : Bool)
  | named (all : Bytes)
  /-- The bytes that count as equal to one. -/
  | equivalent (b : UInt8)
  /-- A byte so many times, or as often as needed. -/
  | copies (b : UInt8) (count : Option Nat)
deriving DecidableEq, Repr

/-- All bytes in order. -/
def allBytes : Bytes := (List.range 256).map UInt8.ofNat

/-- The bytes of a class. -/
def classBytes? (name : Bytes) : Option Bytes :=
  let table : List (String × (UInt8 → Bool)) :=
    [("alnum", fun b => isLetter b || isDigit b), ("alpha", isLetter), ("blank", isBlank),
     ("cntrl", fun b => b < 32 || b == 127), ("digit", isDigit), ("graph", fun b => 33 ≤ b && b ≤ 126),
     ("lower", isLower), ("print", isPrintable),
     ("punct", fun b => 33 ≤ b && b ≤ 126 && !isLetter b && !isDigit b), ("space", isSpace),
     ("upper", isUpper), ("xdigit", fun b => (digitValue? 16 b).isSome)]
  (table.find? fun r => ascii r.1 == name).map fun r => allBytes.filter r.2

/-- Reads the escapes of a set: each byte, and whether it was escaped. -/
def unescapeSet : Nat → Bytes → List (UInt8 × Bool)
  | 0, _ => []
  | _, [] => []
  | _, [92] => [(92, false)]
  | fuel + 1, 92 :: b :: rest =>
    if (digitValue? 8 b).isSome then
      let (value, left) := takeSome 8 3 0 (b :: rest)
      if value < 256 then (UInt8.ofNat value, true) :: unescapeSet fuel left
      else
        let (value, left) := takeSome 8 2 0 (b :: rest)
        (UInt8.ofNat value, true) :: unescapeSet fuel left
    else
      let c := match charOf b with
        | 'a' => 7
        | 'b' => 8
        | 'f' => 12
        | 'n' => 10
        | 'r' => 13
        | 't' => 9
        | 'v' => 11
        | _ => b
      (c, true) :: unescapeSet fuel rest
  | fuel + 1, b :: rest => (b, false) :: unescapeSet fuel rest

/-- The bytes of a class or of an equivalence between brackets with a sign inside, and what is behind it. -/
def takeBracket? (sign : UInt8) : List (UInt8 × Bool) → Option (Bytes × List (UInt8 × Bool))
  | [] => none
  | [_] => none
  | (a, aEscaped) :: (b, bEscaped) :: rest =>
    if a = sign && b = 93 && !aEscaped && !bEscaped then some ([], rest)
    else (takeBracket? sign ((b, bEscaped) :: rest)).map fun (name, behind) => (a :: name, behind)

/-- What is wrong with a set. -/
inductive SetFault
  | unknownClass (name : Bytes)
  | longEquivalence (name : Bytes)
  | reversed (first last : UInt8)
  | badCount (text : Bytes)
deriving DecidableEq, Repr

/-- A byte in a message about a range. -/
def shownByte (b : UInt8) : Bytes :=
  if isPrintable b then [b] else 92 :: padStart 48 3 (digitsIn 8 b.toNat)

def SetFault.message : SetFault → Bytes
  | unknownClass name => ascii "invalid character class " ++ quoted name
  | longEquivalence name =>
    name ++ ascii ": equivalence class operand must be a single character"
  | reversed first last =>
    ascii "range-endpoints of '" ++ shownByte first ++ [45] ++ shownByte last ++
      ascii "' are in reverse collating sequence order"
  | badCount text => ascii "invalid repeat count " ++ quoted text ++ ascii " in [c*n] construct"

/-- A repetition in brackets behind its byte: the count, and what is behind it. -/
def takeCopies? (rest : List (UInt8 × Bool)) : Option (Bytes × List (UInt8 × Bool)) :=
  let inside := rest.takeWhile fun e => e.1 != 93 || e.2
  match rest.dropWhile fun e => e.1 != 93 || e.2 with
  | [] => none
  | _ :: behind => if inside.any (·.2) then none else some (inside.map (·.1), behind)

/-- The count of a repetition; one that begins with a zero is octal. -/
def readCopies? (text : Bytes) : Option (Option Nat) :=
  if text.isEmpty then some none
  else
    let base := if text.head? = some 48 then 8 else 10
    let (value, _, rest) := takeDigits base text 0 0
    if rest.isEmpty then some (if value = 0 then none else some value) else none

/-- Reads the parts of a set. -/
def readSet : Nat → List (UInt8 × Bool) → Except SetFault (List SetPart)
  | 0, _ => .ok []
  | _, [] => .ok []
  | fuel + 1, (b, escaped) :: rest =>
    let plain (rest : List (UInt8 × Bool)) (part : SetPart) := (readSet fuel rest).map (part :: ·)
    let range (_ : Unit) :=
      match rest with
      | (45, false) :: (c, _) :: behind =>
        if b ≤ c then plain behind (.bytes (allBytes.filter fun x => b ≤ x && x ≤ c))
        else .error (.reversed b c)
      | _ => plain rest (.bytes [b])
    if b = 91 && !escaped then
      match rest with
      | (58, false) :: inside =>
        match takeBracket? 58 inside with
        | some (name, behind) =>
          match classBytes? name with
          | some all =>
            if name = ascii "lower" then plain behind (.letters false)
            else if name = ascii "upper" then plain behind (.letters true)
            else plain behind (.named all)
          | none => .error (.unknownClass name)
        | none => range ()
      | (61, false) :: inside =>
        match takeBracket? 61 inside with
        | some ([c], behind) => plain behind (.equivalent c)
        | some (name, _) => .error (.longEquivalence name)
        | none => range ()
      | (c, _) :: (42, false) :: inside =>
        match takeCopies? inside with
        | some (text, behind) =>
          match readCopies? text with
          | some count => plain behind (.copies c count)
          | none => .error (.badCount text)
        | none => range ()
      | _ => range ()
    else range ()

/-- Reads a set. -/
def parseSet (text : Bytes) : Except SetFault (List SetPart) :=
  readSet (text.length + 1) (unescapeSet (text.length + 1) text)

/-- The bytes of a part; a repetition as often as needed is repeated `fill` times. -/
def SetPart.expand (fill : Nat) : SetPart → Bytes
  | bytes all | named all => all
  | equivalent b => [b]
  | letters upper => allBytes.filter (if upper then isUpper else isLower)
  | copies b count => List.replicate (count.getD fill) b

/-- The bytes of a set. -/
def expandSet (fill : Nat) (parts : List SetPart) : Bytes :=
  parts.flatMap (·.expand fill)

/-- The bytes of a set that is to be as long as another one. -/
def expandTo (length : Nat) (parts : List SetPart) : Bytes :=
  expandSet (length - (expandSet 0 parts).length) parts

/-! ### Changing -/

/-- The bytes that are not in a set. -/
def complement (set : Bytes) : Bytes :=
  allBytes.filter (!set.contains ·)

/-- The byte that takes the place of another; the last pair counts. -/
def replacement (pairs : List (UInt8 × UInt8)) (b : UInt8) : UInt8 :=
  ((pairs.reverse.find? (·.1 == b)).map (·.2)).getD b

/-- A table for all bytes. -/
def tableOf {α : Type} (f : UInt8 → α) : Array α := (allBytes.map f).toArray

/-- Leaves one of several equal bytes in a row. -/
def squeezed (set : Array Bool) : Option UInt8 → Bytes → Bytes × Option UInt8
  | last, [] => ([], last)
  | last, b :: rest =>
    if last = some b && set[b.toNat]?.getD false then squeezed set last rest
    else
      let (tail, last) := squeezed set (some b) rest
      (b :: tail, last)

/-- The second set of a replacement: as long as the first, its last byte being repeated. -/
def extendTo (length : Nat) (set : Bytes) : Bytes :=
  match set.getLast? with
  | none => []
  | some b => set ++ List.replicate (length - set.length) b

def trRows : List OptionRow :=
  [⟨some 'c', ["complement"], .nothing⟩, ⟨some 'C', [], .nothing⟩, ⟨some 'd', ["delete"], .nothing⟩,
   ⟨some 's', ["squeeze-repeats"], .nothing⟩, ⟨some 't', ["truncate-set1"], .nothing⟩]

/-- What is to be said about the escapes of a set: that one is octal and too large, and that there is a
backslash at its end. -/
def escapeWarnings : Nat → Bytes → List Bytes
  | 0, _ => []
  | _, [92] => [ascii "warning: an unescaped backslash at end of string is not portable"]
  | fuel + 1, 92 :: b :: rest =>
    let (value, left) := takeSome 8 3 0 (b :: rest)
    if value < 256 then escapeWarnings fuel (if left.length ≤ rest.length then left else rest)
    else
      let shown := (b :: rest).take 3
      (ascii "warning: the ambiguous octal escape \\" ++ shown ++
        ascii " is being\n\tinterpreted as the 2-byte sequence \\0" ++ shown.take 2 ++ ascii ", " ++
          shown.drop 2) ::
        escapeWarnings fuel left
  | fuel + 1, _ :: rest => escapeWarnings fuel rest
  | _, [] => []

/-- Whether parts end the program because of where classes of letters stand: where the second set has one, the
first one has to have one too. -/
def isMisaligned : Nat → List SetPart → List SetPart → Bool
  | 0, _, _ => false
  | fuel + 1, first, second =>
    match first, second with
    | .letters _ :: first, .letters _ :: second => isMisaligned fuel first second
    | [], _ => false
    | _, .letters _ :: _ => true
    | _, [] => false
    | p :: first, q :: second =>
      let left := p.expand 0
      let right := q.expand 0
      if left.isEmpty then isMisaligned fuel first (q :: second)
      else if right.isEmpty then isMisaligned fuel (p :: first) second
      else
        let size := min left.length right.length
        let rest (all : Bytes) (parts : List SetPart) : List SetPart :=
          if all.length = size then parts else .bytes (all.drop size) :: parts
        isMisaligned fuel (rest left first) (rest right second)

/-- How long a set is where each class of letters counts once. -/
def lengthByCase (parts : List SetPart) : Nat :=
  parts.foldl (fun n p =>
    match p with
    | .letters _ => n + 1
    | p => n + (p.expand 0).length) 0

/-- What is wrong with the second set of a replacement. -/
def replacementFault? (inverts truncates : Bool) (first second : List SetPart) (length : Nat) :
    Option String :=
  let hasLetters := second.any fun p => p matches .letters _
  let filled := second.any fun p => p matches .copies _ none
  let (left, right) :=
    if inverts || !hasLetters then (length, (expandSet 0 second).length)
    else (lengthByCase first, lengthByCase second)
  let right := if filled then max left right else right
  if second.any fun p => p matches .equivalent _ then
    some "[=c=] expressions may not appear in string2 when translating"
  else if second.any fun p => p matches .named _ then
    some ("when translating, the only character classes that may appear in\n" ++
      "string2 are 'upper' and 'lower'")
  else if hasLetters && !inverts && isMisaligned (2 * (first.length + second.length) + 512) first second then
    some "misaligned [:upper:] and/or [:lower:] construct"
  else if right < left && !truncates && right = 0 then
    some "when not truncating set1, string2 must be non-empty"
  else if right < left && !truncates && (second.getLast?.any fun p => p matches .letters _) then
    some ("when translating with string1 longer than string2,\n" ++
      "the latter string must not end with a character class")
  else if inverts && (first.any fun p => p matches .letters _ || p matches .named _) &&
      (expandTo length second).eraseDups.length != 1 then
    some ("when translating with complemented character classes,\n" ++
      "string2 must map all characters in the domain to one")
  else none

/-- Reads a set, or ends the program. -/
def setOrDie (text : Bytes) : Printer (List SetPart) := do
  (escapeWarnings (text.length + 1) text).forM complain
  match parseSet text with
  | .ok parts => return parts
  | .error fault => die 1 fault.message

/-- Says how many sets there should be. -/
def misuseSets {α : Type} (a : Arguments) (deletes squeezes : Bool) (least : Nat) : Printer α := do
  match a.operands with
  | [] => misuse 1 (ascii "missing operand")
  | operands =>
    if operands.length < least then
      complain (ascii "missing operand after " ++ quoted (operands.getLastD []))
      warn (ascii (if deletes && squeezes then
        "Two strings must be given when both deleting and squeezing repeats.\n"
        else "Two strings must be given when translating.\n"))
    else
      complain (ascii "extra operand " ++ quoted (operands[if deletes && !squeezes then 1 else 2]?.getD []))
      if operands.length = 2 then
        warn (ascii "Only one string may be given when deleting without squeezing repeats.\n")
    pointToHelp
    quit 1

/-- Copies the input with a step for each block. -/
def convert (step : Option UInt8 → Bytes → Bytes × Option UInt8) : Printer Int := do
  let result ← repeated (fun (last : Option UInt8) => do
    match ← perform (.read 0 blockSize) with
    | .error e => return .inr (some e)
    | .ok [] => return .inr none
    | .ok block =>
      let (shown, last) := step last block
      say shown
      return .inl last) none
  match result with
  | none => return 0
  | some e => die 1 (ascii "read error: " ++ e.libraryText.encode)

def tr : Utility := printing 1 fun args => do
  let a := Arguments.readInFront trRows args
  a.check 1
  let deletes := a.has "d"
  let squeezes := a.has "s"
  let inverts := a.has "c" || a.has "C"
  let least := if deletes == squeezes then 2 else 1
  let most := if deletes && !squeezes then 1 else 2
  if a.operands.length < least || most < a.operands.length then misuseSets a deletes squeezes least
  let first ← setOrDie (a.operands.headD [])
  let second ← a.operands.tail.mapM setOrDie
  let isFilled (p : SetPart) : Bool := p matches .copies _ none
  if first.any isFilled then die 1 (ascii "the [c*] repeat construct may not appear in string1")
  if 1 < ((second.headD []).countP isFilled) then
    die 1 (ascii "only one [c*] repeat construct may appear in string2")
  if deletes && (second.headD []).any isFilled then
    die 1 (ascii "the [c*] construct may appear in string2 only when translating")
  let plain := expandSet 0 first
  let source := if inverts then complement plain else plain
  let inSource := tableOf source.contains
  let isIn (set : Array Bool) (b : UInt8) : Bool := set[b.toNat]?.getD false
  if deletes then
    let squeezeSet := tableOf ((second.head?.map (expandSet 0)).getD []).contains
    convert fun last block =>
      let kept := block.filter fun b => !isIn inSource b
      if squeezes then squeezed squeezeSet last kept else (kept, none)
  else
    match second with
    | [] => convert fun last block => squeezed inSource last block
    | parts :: _ =>
      let cased := first.any (fun p => p matches .letters _) && parts.any fun p => p matches .letters _
      if let some fault := replacementFault? inverts (a.has "t") first parts source.length then
        die 1 (ascii fault)
      let target := expandTo source.length parts
      let full := if a.has "t" then target else extendTo source.length target
      let pairs := if cased && inverts then [] else source.zip full
      let change := tableOf (replacement pairs)
      let targetSet := tableOf target.contains
      convert fun last block =>
        let changed := block.map fun b => change[b.toNat]?.getD b
        if squeezes then squeezed targetSet last changed else (changed, none)

end JobShell.Utility
