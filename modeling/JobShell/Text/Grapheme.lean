import JobShell.Text.Basic
import JobShell.Text.Grapheme.Table
import JobShell.Text.Ranges

/-! # Graphemes

A grapheme is what a reader takes for one character: a letter with its marks, a syllable of Hangul, a conjunct
of an Indic script, a flag, a joined picture. A text is cut into graphemes between any two characters that do
not belong together; whether they do is decided by their kinds and by what stands before. -/

namespace JobShell.Text

namespace Grapheme

/-- How a character takes part in graphemes. -/
inductive Kind
  | carriageReturn
  | lineFeed
  | control
  | extend
  /-- An extending mark that links two consonants. -/
  | linker
  /-- The mark that keeps consonants apart. -/
  | nonJoiner
  /-- The mark that joins two pictures. -/
  | joiner
  | spacing
  | lead
  | regional
  | consonant
  | picture
  | hangulL
  | hangulV
  | hangulT
  | hangulLV
  | hangulLVT
  | other
deriving DecidableEq, Repr

/-- The kind of a syllable or a letter of Hangul. -/
def hangulKind? (n : Nat) : Option Kind :=
  if 0xAC00 ≤ n && n ≤ 0xD7A3 then some (if (n - 0xAC00) % 28 = 0 then .hangulLV else .hangulLVT)
  else if inRanges [(0x1100, 0x115F), (0xA960, 0xA97C)] n then some .hangulL
  else if inRanges [(0x1160, 0x11A7), (0xD7B0, 0xD7C6), (0x16D63, 0x16D63), (0x16D67, 0x16D6A)] n then
    some .hangulV
  else if inRanges [(0x11A8, 0x11FF), (0xD7CB, 0xD7FB)] n then some .hangulT
  else none

/-- The kind of a character. -/
def Kind.ofChar (c : Char) : Kind :=
  let n := c.toNat
  if n = 0x0D then .carriageReturn
  else if n = 0x0A then .lineFeed
  else if 0x20 ≤ n && n < 0x7F then .other
  else if n = 0x200C then .nonJoiner
  else if n = 0x200D then .joiner
  else if 0x1F1E6 ≤ n && n ≤ 0x1F1FF then .regional
  else if linkers.contains n then .linker
  else if inRanges (if n < 0x2000 then extendLow else extendHigh) n then .extend
  else if inRanges controlRanges n then .control
  else if inRanges spacingRanges n then .spacing
  else if inRanges leadRanges n then .lead
  else if inRanges consonantRanges n then .consonant
  else if inRanges pictureRanges n then .picture
  else (hangulKind? n).getD .other

/-- Whether characters of a kind stand alone, whatever is beside them. -/
def Kind.isControl : Kind → Bool
  | carriageReturn | lineFeed | control => true
  | _ => false

/-- What has to be known of the characters before a place. -/
structure Before where
  /-- The kind of the character right before. -/
  last : Kind
  /-- A consonant is before, with marks behind it; the flag says whether a linker is among them. -/
  conjunct : Option Bool
  /-- A picture is before, with marks behind it; the flag says whether a joiner is the last of them. -/
  picture : Option Bool
  /-- An odd number of regional signs is before. -/
  oddRegional : Bool
deriving DecidableEq, Repr

/-- What is before a place behind a character of a kind. -/
def Before.next (b : Option Before) (k : Kind) : Before where
  last := k
  conjunct := match k with
    | .consonant => some false
    | .linker => (b.bind (·.conjunct)).map fun _ => true
    | .extend | .joiner => b.bind (·.conjunct)
    | _ => none
  picture := match k with
    | .picture => some false
    | .extend | .linker | .nonJoiner => if b.bind (·.picture) = some false then some false else none
    | .joiner => if b.bind (·.picture) = some false then some true else none
    | _ => none
  oddRegional := k == .regional && !b.any (·.oddRegional)

/-- Whether a character of a kind belongs to the grapheme before it. -/
def joins (b : Before) (k : Kind) : Bool :=
  if b.last.isControl || k.isControl then b.last == .carriageReturn && k == .lineFeed
  else
    match b.last, k with
    | _, .extend | _, .linker | _, .nonJoiner | _, .joiner | _, .spacing => true
    | .lead, _ => true
    | .hangulL, .hangulL | .hangulL, .hangulV | .hangulL, .hangulLV | .hangulL, .hangulLVT => true
    | .hangulLV, .hangulV | .hangulLV, .hangulT | .hangulV, .hangulV | .hangulV, .hangulT => true
    | .hangulLVT, .hangulT | .hangulT, .hangulT => true
    | _, .consonant => b.conjunct == some true
    | _, .picture => b.picture == some true
    | .regional, .regional => b.oddRegional
    | _, _ => false

end Grapheme

/-- Cuts a text into graphemes; `current` is the one before, backwards. -/
def graphemesFrom (b : Option Grapheme.Before) (current : Text) : Text → List Text
  | [] => if current.isEmpty then [] else [current.reverse]
  | c :: rest =>
    let k := Grapheme.Kind.ofChar c
    let after := Grapheme.Before.next b k
    if b.any (Grapheme.joins · k) || current.isEmpty then graphemesFrom (some after) (c :: current) rest
    else current.reverse :: graphemesFrom (some after) [c] rest

/-- The graphemes of a text, in order. -/
def graphemes (t : Text) : List Text :=
  graphemesFrom none [] t

end JobShell.Text
