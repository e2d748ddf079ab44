import JobShell.Text.Basic

/-! # Words and segments

A line is cut twice: at bars into segments, and a segment at blanks into words. Between two bars there is
always a segment, be it empty; a word is never empty, so that blanks in a row count as one. -/

namespace JobShell.Text

/-- The words of a text: its longest runs of characters that are not blanks. -/
def words (t : Text) : List Text :=
  (splitBy isBlank t).filter fun w => !w.isEmpty

/-- The words of a text, as many of them as the limit lets through. -/
def tokenize (limit : Nat) (t : Text) : List Text :=
  (words t).take limit

/-- The segments of a text: what stands between its bars. -/
def segments (t : Text) : List Text :=
  splitBy (· == '|') t

end JobShell.Text
