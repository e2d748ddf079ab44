import JobShell.Text.Basic
import JobShell.Text.Hidden

/-! # Quoted text

A text is quoted in a message between double quotes. Quotes and backslashes are escaped, and a character that
is not shown as itself is given by its number in hexadecimal. -/

namespace JobShell.Text

/-- The number of a character in lower case hexadecimal digits, between braces. -/
def numbered (c : Char) : Text :=
  '\\' :: 'u' :: '\x7b' :: Nat.toDigits 16 c.toNat ++ ['\x7d']

/-- How one character is written inside quotes. -/
def escape (c : Char) : Text :=
  if c = '\x00' then ['\\', '0']
  else if c = '\t' then ['\\', 't']
  else if c = '\r' then ['\\', 'r']
  else if c = '\n' then ['\\', 'n']
  else if c = '"' then ['\\', '"']
  else if c = '\\' then ['\\', '\\']
  else if isHidden c then numbered c
  else [c]

/-- The text between double quotes. -/
def quoted (t : Text) : Text :=
  '"' :: t.flatMap escape ++ ['"']

end JobShell.Text
