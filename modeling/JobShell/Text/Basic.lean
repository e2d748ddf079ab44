/-! # Text

Text is a list of characters, so that cutting, trimming and joining are list functions. Two notions of
white space meet in a shell line: the four *blanks* separate words, and the *white space* of Unicode is
trimmed at the ends of lines and of segments. Every blank is white space, and not the other way round. -/

namespace JobShell

/-- A text, one character after the other. -/
abbrev Text := List Char

namespace Text

/-- The blanks between words: space, tab, carriage return and line feed. -/
def isBlank (c : Char) : Bool :=
  c == ' ' || c == '\t' || c == '\r' || c == '\n'

/-- The characters with the Unicode property `White_Space`. -/
def isWhiteSpace (c : Char) : Bool :=
  let n := c.toNat
  (9 ≤ n && n ≤ 13) || n == 0x20 || n == 0x85 || n == 0xA0 || n == 0x1680 ||
    (0x2000 ≤ n && n ≤ 0x200A) || n == 0x2028 || n == 0x2029 || n == 0x202F || n == 0x205F || n == 0x3000

theorem isWhiteSpace_of_isBlank {c : Char} (h : isBlank c = true) : isWhiteSpace c = true := by
  simp only [isBlank, Bool.or_eq_true, beq_iff_eq] at h
  rcases h with ((rfl | rfl) | rfl) | rfl <;> decide

/-- The text without the white space in front. -/
def trimStart (t : Text) : Text :=
  t.dropWhile isWhiteSpace

/-- The text without the white space at its end. -/
def trimEnd (t : Text) : Text :=
  (t.reverse.dropWhile isWhiteSpace).reverse

/-- The text without the white space at both ends. -/
def trim (t : Text) : Text :=
  trimEnd (trimStart t)

/-- A text of white space alone, the empty text included. -/
def isSpace (t : Text) : Bool :=
  t.all isWhiteSpace

/-- Cuts a text at every character of a kind; the pieces are what stands between these characters. -/
def splitBy (p : Char → Bool) : Text → List Text
  | [] => [[]]
  | c :: cs =>
    if p c then [] :: splitBy p cs
    else
      match splitBy p cs with
      | [] => [[c]]
      | piece :: pieces => (c :: piece) :: pieces

/-- Joins texts, with a separator between them. -/
def join (separator : Text) (pieces : List Text) : Text :=
  List.intercalate separator pieces

/-- The digits of a number in base ten, without leading zeros. -/
def ofNat (n : Nat) : Text :=
  Nat.toDigits 10 n

/-- The digits of an integer, with a minus sign in front of a negative one. -/
def ofInt : Int → Text
  | .ofNat n => ofNat n
  | .negSucc n => '-' :: ofNat (n + 1)

end Text

end JobShell
