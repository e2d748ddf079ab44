import JobShell.Utility.Basic

/-! # Quoted names

Names in messages are quoted so that a shell would read them as one word. A name that needs no quotes is
written as it is where this is allowed; a byte that cannot be seen is written by its number. -/

namespace JobShell.Utility

/-- The letter that stands for a control byte behind a backslash. -/
def controlLetter? (b : UInt8) : Option Char :=
  match b.toNat with
  | 7 => some 'a'
  | 8 => some 'b'
  | 9 => some 't'
  | 10 => some 'n'
  | 11 => some 'v'
  | 12 => some 'f'
  | 13 => some 'r'
  | _ => none

/-- A byte behind a backslash: by a letter, or by three octal digits. -/
def escaped (b : UInt8) : Bytes :=
  match controlLetter? b with
  | some c => [92, byte c]
  | none => 92 :: padStart 48 3 (digitsOctal b.toNat)
where
  /-- The octal digits of a number. -/
  digitsOctal (n : Nat) : Bytes := (Nat.toDigits 8 n).map byte

/-- Whether a byte in a word has a meaning for a shell; `first` says that it begins the word, and `alone` that
it is all of it. -/
def isSpecial (first alone : Bool) (b : UInt8) : Bool :=
  if !isPrintable b then true
  else
    let c := charOf b
    if c == '#' || c == '~' then first
    else if c == '\x7b' || c == '\x7d' then alone
    else " !\"$&'()*;<=>?[\\^`|".toList.contains c

/-- Whether a word has to be quoted for a shell. -/
def needsQuotes (word : Bytes) : Bool :=
  match word with
  | [] => true
  | b :: rest => isSpecial true rest.isEmpty b || rest.any (isSpecial false false)

/-- Whether a byte means itself between double quotes as well. -/
def isPlainInDouble (first alone : Bool) (b : UInt8) : Bool :=
  let c := charOf b
  isLetter b || isDigit b || " '%+,-./:]_@".toList.contains c || (first && (c == '#' || c == '~')) ||
    (alone && (c == '\x7b' || c == '\x7d'))

/-- Whether all of a word means itself between double quotes. -/
def isPlainWord (word : Bytes) : Bool :=
  match word with
  | [] => true
  | b :: rest => isPlainInDouble true rest.isEmpty b && rest.all (isPlainInDouble false false)

/-- The inside of single quotes; `escaping` says that the last byte was written by its number. -/
def singleQuoted (escaping : Bool) : Bytes → Bytes
  | [] => []
  | b :: rest =>
    if b == 39 then [39, 92, 39, 39] ++ singleQuoted false rest
    else if isPrintable b then (if escaping then [39, 39, b] else [b]) ++ singleQuoted false rest
    else (if escaping then [] else [39, 36, 39]) ++ escaped b ++ singleQuoted true rest

/-- A word in quotes for a shell. -/
def shellQuoted (word : Bytes) : Bytes :=
  if word.contains 39 && isPlainWord word then 34 :: word ++ [34]
  else 39 :: singleQuoted false word ++ [39]

/-- A name in quotes for a shell if it needs them; a colon needs them too, as one stands behind the name. -/
def fileName (word : Bytes) : Bytes :=
  if needsQuotes word || word.contains 58 then shellQuoted word else word

/-- A text between single quotes, with backslashes in front of what could be misread. -/
def quoted (text : Bytes) : Bytes :=
  39 :: text.flatMap (fun b =>
    if b == 39 || b == 92 then [92, b] else if isPrintable b then [b] else escaped b) ++ [39]

end JobShell.Utility
