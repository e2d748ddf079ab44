import JobShell.Text.Basic

/-! # UTF-8

Bytes and texts. A text is written as the UTF-8 of its characters (`encode`), and bytes are a text only if
they are well formed (`decode?`). For display, bytes that are no text are read character by character, with
one replacement character for each longest piece that could have begun a character (`decodeLossy`). -/

namespace JobShell

/-- A sequence of bytes. -/
abbrev Bytes := List UInt8

namespace Text

/-- The UTF-8 form of a text. -/
def encode (t : Text) : Bytes :=
  t.flatMap String.utf8EncodeChar

/-- The text whose UTF-8 form the bytes are, if there is one. -/
def decode? (bs : Bytes) : Option Text :=
  (ByteArray.mk bs.toArray).utf8Decode?.map Array.toList

/-- The character shown for bytes that are no text. -/
def replacement : Char := '\uFFFD'

/-- The ranges of the bytes that may follow `b` as the first byte of a character of more than one byte. -/
def followers (b : UInt8) : List (UInt8 × UInt8) :=
  if 0xC2 ≤ b ∧ b ≤ 0xDF then [(0x80, 0xBF)]
  else if b = 0xE0 then [(0xA0, 0xBF), (0x80, 0xBF)]
  else if b = 0xED then [(0x80, 0x9F), (0x80, 0xBF)]
  else if 0xE1 ≤ b ∧ b ≤ 0xEF then [(0x80, 0xBF), (0x80, 0xBF)]
  else if b = 0xF0 then [(0x90, 0xBF), (0x80, 0xBF), (0x80, 0xBF)]
  else if 0xF1 ≤ b ∧ b ≤ 0xF3 then [(0x80, 0xBF), (0x80, 0xBF), (0x80, 0xBF)]
  else if b = 0xF4 then [(0x80, 0x8F), (0x80, 0xBF), (0x80, 0xBF)]
  else []

/-- How many bytes in a row lie in the given ranges, one after the other. -/
def following : List (UInt8 × UInt8) → Bytes → Nat
  | (lo, hi) :: ranges, b :: bs => if lo ≤ b ∧ b ≤ hi then following ranges bs + 1 else 0
  | _, _ => 0

/-- Reads bytes as a text, putting the replacement character where they are none. -/
def decodeLossy (bs : Bytes) : Text :=
  match bs with
  | [] => []
  | b :: rest =>
    if b < 0x80 then Char.ofNat b.toNat :: decodeLossy rest
    else
      let piece := b :: rest.take (following (followers b) rest)
      (match decode? piece with
        | some [c] => c
        | _ => replacement) :: decodeLossy (rest.drop (following (followers b) rest))
termination_by bs.length
decreasing_by
  all_goals simp only [List.length_cons, List.length_drop]; omega

end Text

end JobShell
