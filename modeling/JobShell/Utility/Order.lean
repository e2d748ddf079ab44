import JobShell.Utility.Numeral
import JobShell.Utility.Options

/-! # Sorted lines

`sort` puts lines in order, `uniq` looks at repeated lines, and `comm` compares sorted ones. Lines are ordered
by their keys, and lines with equal keys by their bytes. -/

namespace JobShell.Utility

open Printer

/-! ### Keys -/

/-- How two keys are compared. -/
inductive KeyOrder
  | text
  | numeric
  | general
  | human
  | month
  | version
deriving DecidableEq, Repr

/-- The rules by which keys are compared. -/
structure KeyRules where
  /-- The orders that were asked for, of which one counts. -/
  orders : List KeyOrder := []
  random : Bool := false
  /-- Only blanks, letters and digits count. -/
  dictionary : Bool := false
  /-- Small letters count as capital ones. -/
  foldsCase : Bool := false
  /-- Only characters that can be seen count. -/
  printable : Bool := false
  reverse : Bool := false
  /-- Blanks in front of the beginning and of the end of a key do not count. -/
  skipsAtStart : Bool := false
  skipsAtEnd : Bool := false
deriving DecidableEq, Repr

/-- The order that counts. -/
def KeyRules.order (r : KeyRules) : KeyOrder :=
  r.orders.getLastD .text

/-- The letters of rules that exclude one another. -/
def KeyRules.conflict? (r : KeyRules) : Option Bytes :=
  let has (o : KeyOrder) : Bool := r.orders.contains o
  let numbers := [KeyOrder.numeric, .general, .human, .month].countP has
  if 1 < numbers + (if has .version || r.random || r.dictionary || r.printable then 1 else 0) then
    let rules : List (Bool × Char) :=
      [(r.dictionary, 'd'), (r.foldsCase, 'f'), (has .general, 'g'), (has .human, 'h'),
       (r.printable && !r.dictionary, 'i'), (has .month, 'M'), (has .numeric, 'n'), (r.random, 'R'),
       (has .version, 'V')]
    some ((rules.filter (·.1)).map fun rule => byte rule.2)
  else none

/-- A key: where it begins and where it ends in a line, and how it is compared. Fields and characters are
counted from zero; without an end the key goes on to the end of the line. -/
structure Key where
  field : Nat := 0
  char : Nat := 0
  endField : Option Nat := none
  endChar : Nat := 0
  rules : KeyRules := {}
deriving Repr

/-- The line behind one field and the separator behind it. -/
def skipField (separator : Option UInt8) (line : Bytes) : Bytes :=
  match separator with
  | some s => (line.dropWhile (· != s)).drop 1
  | none => (line.dropWhile isBlank).dropWhile (!isBlank ·)

/-- The line behind several fields. -/
def skipFields (separator : Option UInt8) : Nat → Bytes → Bytes
  | 0, line => line
  | _, [] => []
  | n + 1, line => skipFields separator n (skipField separator line)

/-- How many bytes of a line are in front of the place where a key begins. -/
def Key.start (separator : Option UInt8) (k : Key) (line : Bytes) : Nat :=
  let rest := skipFields separator k.field line
  let rest := if k.rules.skipsAtStart then rest.dropWhile isBlank else rest
  min line.length (line.length - rest.length + k.char)

/-- How many bytes of a line are in front of the place where a key ends. -/
def Key.finish (separator : Option UInt8) (k : Key) (line : Bytes) : Nat :=
  match k.endField with
  | none => line.length
  | some field =>
    if k.endChar = 0 then
      match separator with
      | some s =>
        let rest := skipFields separator field line
        line.length - (rest.dropWhile (· != s)).length
      | none => line.length - (skipFields none (field + 1) line).length
    else
      let rest := skipFields separator field line
      let rest := if k.rules.skipsAtEnd then rest.dropWhile isBlank else rest
      min line.length (line.length - rest.length + k.endChar)

/-- The part of a line that a key stands for. -/
def Key.of (separator : Option UInt8) (k : Key) (line : Bytes) : Bytes :=
  let start := k.start separator line
  (line.take (k.finish separator line)).drop start

/-! ### Comparison -/

/-- A number in front of a text: digits with a point among them, without an exponent. -/
def leadingNumber (text : Bytes) : Decimal × Bytes :=
  let (negative, rest) := match text.dropWhile isBlank with
    | 45 :: rest => (true, rest)
    | rest => (false, rest)
  let (value, places, _, rest) := Decimal.takePlaces 10 rest
  (Decimal.scaled negative value 10 0 (power 10 places) places, rest)

/-- Compares two numbers. -/
def Decimal.compare (a b : Decimal) : Ordering :=
  Ord.compare (a.numerator * b.denominator) (b.numerator * a.denominator)

/-- The order of the units behind numbers. -/
def humanUnit (rest : Bytes) : Nat :=
  ((sizeUnits.find? fun u => rest.head? == some (byte u.1) && u.1 != 'm' && u.1 != 'g' && u.1 != 't').map
    (·.2)).getD 0

/-- The number of the month that a text begins with. -/
def monthOf (text : Bytes) : Nat :=
  let name := ((text.dropWhile isBlank).take 3).map toUpper
  let months := ["JAN", "FEB", "MAR", "APR", "MAY", "JUN", "JUL", "AUG", "SEP", "OCT", "NOV", "DEC"]
  match months.findIdx? fun m => ascii m == name with
  | some i => i + 1
  | none => 0

/-- Compares numbers that have units: by their signs, then by their units, then by their values. -/
def compareHuman (a b : Bytes) : Ordering :=
  let (x, restX) := leadingNumber a
  let (y, restY) := leadingNumber b
  let rank (n : Decimal) (rest : Bytes) : Int :=
    if n.numerator = 0 then 0 else n.numerator.sign * (humanUnit rest + 1 : Nat)
  match Ord.compare (rank x restX) (rank y restY) with
  | .eq => x.compare y
  | order => order

/-- Compares numbers in any form; what is no number comes first. -/
def compareGeneral (a b : Bytes) : Ordering :=
  match Decimal.take? a, Decimal.take? b with
  | none, none => .eq
  | none, some _ => .lt
  | some _, none => .gt
  | some (x, _), some (y, _) => x.compare y

/-- The order of a character in a version: a tilde comes first, and letters before all else. -/
def versionRank : Option UInt8 → Int
  | none => -1
  | some b => if b == 126 then -2 else if isDigit b then 0 else if isLetter b then b.toNat else b.toNat + 256

/-- Compares versions, in which digits in a row count as numbers. -/
def compareVersions : Nat → Bytes → Bytes → Ordering
  | 0, _, _ => .eq
  | _, [], [] => .eq
  | fuel + 1, a, b =>
    let rank (x : Bytes) : Int := if x.head?.any isDigit then 0 else versionRank x.head?
    if a.head?.any isDigit && b.head?.any isDigit then
      let x := (readNat? (a.takeWhile isDigit)).getD 0
      let y := (readNat? (b.takeWhile isDigit)).getD 0
      match Ord.compare x y with
      | .eq => compareVersions fuel (a.dropWhile isDigit) (b.dropWhile isDigit)
      | order => order
    else
      match Ord.compare (rank a) (rank b) with
      | .eq => compareVersions fuel (a.drop 1) (b.drop 1)
      | order => order

/-- What counts of a text. -/
def KeyRules.prepare (r : KeyRules) (text : Bytes) : Bytes :=
  let text :=
    if r.dictionary then text.filter fun b => isBlank b || isLetter b || isDigit b
    else if r.printable then text.filter isPrintable
    else text
  if r.foldsCase then text.map toUpper else text

/-- Compares two keys. -/
def KeyRules.compare (r : KeyRules) (a b : Bytes) : Ordering :=
  let order := match r.order with
    | .text => compareBytes (r.prepare a) (r.prepare b)
    | .numeric => (leadingNumber a).1.compare (leadingNumber b).1
    | .general => compareGeneral a b
    | .human => compareHuman a b
    | .month => Ord.compare (monthOf a) (monthOf b)
    | .version =>
      match compareVersions (a.length + b.length + 1) a b with
      | .eq => compareBytes a b
      | order => order
  if r.reverse then order.swap else order

/-! ### Putting lines in order -/

/-- How lines are sorted. -/
structure SortOptions where
  keys : List Key := []
  rules : KeyRules := {}
  separator : Option UInt8 := none
  unique : Bool := false
  stable : Bool := false
  ending : UInt8 := 10
deriving Repr

/-- Compares two lines by their keys. -/
def SortOptions.compareKeys (o : SortOptions) (a b : Bytes) : Ordering :=
  o.keys.foldl (fun order k =>
    if order = .eq then k.rules.compare (k.of o.separator a) (k.of o.separator b) else order) .eq

/-- Compares two lines by their keys, and then by all their bytes. -/
def SortOptions.compare (o : SortOptions) (a b : Bytes) : Ordering :=
  match o.compareKeys a b with
  | .eq =>
    if !o.keys.isEmpty && (o.unique || o.stable) then .eq
    else
      let order := compareBytes a b
      if o.rules.reverse then order.swap else order
  | order => order

/-- The lines of several inputs in order. Inputs that are only merged count as being in order. -/
def SortOptions.sorted (o : SortOptions) (merges : Bool) (inputs : List (List Bytes)) : List Bytes :=
  let isBefore (a b : Bytes) : Bool := o.compare a b != .gt
  let sorted :=
    if merges then inputs.foldr (fun lines rest => lines.merge rest isBefore) []
    else inputs.flatten.mergeSort isBefore
  if o.unique then firstOfEach sorted else sorted
where
  /-- The first of several lines in a row that are equal. -/
  firstOfEach : List Bytes → List Bytes
    | a :: b :: rest =>
      if o.compare a b = .eq then
        match firstOfEach (b :: rest) with
        | _ :: rest => a :: rest
        | [] => [a]
      else a :: firstOfEach (b :: rest)
    | lines => lines

/-- The first line that is out of order, by its number. -/
def SortOptions.disorder? (o : SortOptions) : Nat → List Bytes → Option (Nat × Bytes)
  | n, a :: b :: rest =>
    let order := o.compare a b
    if order = .gt || (o.unique && order = .eq) then some (n + 1, b) else disorder? o (n + 1) (b :: rest)
  | _, _ => none

/-! ### The arguments of `sort` -/

/-- Applies the letter of an ordering option. -/
def KeyRules.apply? (r : KeyRules) (c : Char) (atEnd : Bool) : Option KeyRules :=
  match c with
  | 'b' => some (if atEnd then { r with skipsAtEnd := true } else { r with skipsAtStart := true })
  | 'd' => some { r with dictionary := true }
  | 'f' => some { r with foldsCase := true }
  | 'g' => some { r with orders := r.orders ++ [.general] }
  | 'h' => some { r with orders := r.orders ++ [.human] }
  | 'i' => some { r with printable := true }
  | 'M' => some { r with orders := r.orders ++ [.month] }
  | 'n' => some { r with orders := r.orders ++ [.numeric] }
  | 'R' => some { r with random := true }
  | 'r' => some { r with reverse := true }
  | 'V' => some { r with orders := r.orders ++ [.version] }
  | _ => none

/-- Applies ordering letters, as far as they are such; the rest is left. -/
def KeyRules.applyAll (r : KeyRules) (atEnd : Bool) : Bytes → KeyRules × Bytes
  | [] => (r, [])
  | b :: rest =>
    match r.apply? (charOf b) atEnd with
    | some r => r.applyAll atEnd rest
    | none => (r, b :: rest)

/-- Reads a number that is counted from one. -/
def readPlace (zero : Bytes) (start text : Bytes) : Except Bytes (Nat × Bytes) :=
  let (value, count, rest) := takeDigits 10 text 0 0
  if count = 0 then .error (start ++ ascii ": invalid count at start of " ++ quoted text)
  else if value = 0 then .error zero
  else .ok (value - 1, rest)

/-- Reads a key. -/
def readKey (spec : Bytes) : Except Bytes Key := do
  let bad (why : String) : Bytes := ascii why ++ ascii ": invalid field specification " ++ quoted spec
  let zeroField := bad "field number is zero"
  let (field, rest) ← readPlace zeroField (ascii "invalid number at field start") spec
  let (char, rest) ← match rest with
    | 46 :: rest => readPlace (bad "character offset is zero") (ascii "invalid number after '.'") rest
    | rest => pure (0, rest)
  let (rules, rest) := ({} : KeyRules).applyAll false rest
  match rest with
  | [] => return { field, char, rules }
  | 44 :: rest =>
    let (endField, rest) ← readPlace zeroField (ascii "invalid number after ','") rest
    let (endChar, rest) ← match rest with
      | 46 :: rest =>
        let (value, count, left) := takeDigits 10 rest 0 0
        if count = 0 then
          throw (ascii "invalid number after '.': invalid count at start of " ++ quoted rest)
        else pure (value, left)
      | rest => pure (0, rest)
    let (rules, rest) := rules.applyAll true rest
    if rest.isEmpty then return { field, char, endField := some endField, endChar, rules }
    else throw (bad "stray character in field spec")
  | _ => throw (bad "stray character in field spec")

def sortRows : List OptionRow :=
  [⟨some 'b', ["ignore-leading-blanks"], .nothing⟩, ⟨some 'c', ["check"], .maybe⟩, ⟨some 'C', [], .nothing⟩,
   ⟨none, ["compress-program"], .value⟩, ⟨none, ["debug"], .nothing⟩,
   ⟨some 'd', ["dictionary-order"], .nothing⟩,
   ⟨some 'f', ["ignore-case"], .nothing⟩, ⟨none, ["files0-from"], .value⟩,
   ⟨some 'g', ["general-numeric-sort"], .nothing⟩, ⟨some 'i', ["ignore-nonprinting"], .nothing⟩,
   ⟨some 'k', ["key"], .value⟩, ⟨some 'm', ["merge"], .nothing⟩, ⟨some 'M', ["month-sort"], .nothing⟩,
   ⟨some 'n', ["numeric-sort"], .nothing⟩, ⟨some 'h', ["human-numeric-sort"], .nothing⟩,
   ⟨some 'V', ["version-sort"], .nothing⟩, ⟨some 'R', ["random-sort"], .nothing⟩,
   ⟨none, ["random-source"], .value⟩,
   ⟨none, ["sort"], .value⟩, ⟨some 'o', ["output"], .value⟩, ⟨some 'r', ["reverse"], .nothing⟩,
   ⟨some 's', ["stable"], .nothing⟩, ⟨none, ["batch-size"], .value⟩, ⟨some 'S', ["buffer-size"], .value⟩,
   ⟨some 't', ["field-separator"], .value⟩, ⟨some 'T', ["temporary-directory"], .value⟩,
   ⟨some 'u', ["unique"], .nothing⟩, ⟨some 'z', ["zero-terminated"], .nothing⟩, ⟨none, ["parallel"], .value⟩]

/-- Reads a field separator. -/
def readSeparator (text : Bytes) : Printer UInt8 :=
  match text with
  | [] => die 2 (ascii "empty tab")
  | [b] => return b
  | [92, 48] => return 0
  | _ => die 2 (ascii "multi-character tab " ++ quoted text)

/-- The words for orders, with their letters. -/
def sortWords : List (String × Char) :=
  [("general-numeric", 'g'), ("human-numeric", 'h'), ("month", 'M'), ("numeric", 'n'), ("random", 'R'),
   ("version", 'V')]

/-- The options with a rule for all keys. -/
def SortOptions.withRule (o : SortOptions) (c : Char) : SortOptions :=
  match o.rules.apply? c false with
  | some rules => { o with rules := { rules with skipsAtEnd := rules.skipsAtStart } }
  | none => o

/-- The operand that an old form of a key is, with the one behind it that may say where the key ends. -/
def oldKey? (first : Bytes) (second : Option Bytes) : Option (Key × Bool) :=
  let place (text : Bytes) : Nat × Nat × Bytes :=
    let (field, _, rest) := takeDigits 10 text 0 0
    match rest with
    | 46 :: rest =>
      let (char, _, rest) := takeDigits 10 rest 0 0
      (field, char, rest)
    | rest => (field, 0, rest)
  match first with
  | 43 :: text =>
    let (field, char, rest) := place text
    let (rules, rest) := ({} : KeyRules).applyAll false rest
    if !text.head?.any isDigit || !rest.isEmpty then none
    else
      let k : Key := { field, char, rules }
      match second with
      | some (45 :: d :: text) =>
        let (endField, endChar, rest) := place (d :: text)
        let (rules, rest) := rules.applyAll true rest
        if !isDigit d || !rest.isEmpty then some (k, false)
        else if endChar = 0 then
          some ({ k with endField := if endField = 0 then some 0 else some (endField - 1), rules }, true)
        else some ({ k with endField := some endField, endChar, rules }, true)
      | _ => some (k, false)
  | _ => none

/-- Takes keys in their old form out of the arguments, and gives them their new form. -/
def newKeys : Nat → List Bytes → List Bytes × List Key
  | 0, args => (args, [])
  | _, [] => ([], [])
  | fuel + 1, arg :: rest =>
    if arg = ascii "--" then (arg :: rest, [])
    else
      match oldKey? arg rest.head? with
      | some (k, usesNext) =>
        let (args, keys) := newKeys fuel (if usesNext then rest.drop 1 else rest)
        (args, k :: keys)
      | none =>
        let (args, keys) := newKeys fuel rest
        (arg :: args, keys)

/-- Applies an option of `sort`. -/
def sortOption (o : SortOptions) (g : Given) : Printer SortOptions := do
  match g.key, g.value with
  | "k", some spec =>
    match readKey spec with
    | .ok key => return { o with keys := o.keys ++ [key] }
    | .error fault => die 2 fault
  | "t", some text => return { o with separator := some (← readSeparator text) }
  | "u", _ => return { o with unique := true }
  | "s", _ => return { o with stable := true }
  | "z", _ => return { o with ending := 0 }
  | "sort", some word =>
    match sortWords.find? fun w => word.isPrefixOf (ascii w.1) with
    | some w => return o.withRule w.2
    | none => misuse 2 (invalidChoice "--sort" (sortWords.map (·.1)) word)
  | key, _ =>
    match key.toList with
    | [c] => return o.withRule c
    | _ => return o

/-- The options with the rules for all keys applied to those that have none of their own. -/
def SortOptions.complete (o : SortOptions) : SortOptions :=
  let keys := o.keys.map fun k => if k.rules = {} then { k with rules := o.rules } else k
  let whole : KeyRules := { o.rules with reverse := false }
  if keys.isEmpty && whole != {} then { o with keys := [{ rules := o.rules }] } else { o with keys }

/-- Says that a file could not be read, and ends the program. -/
def cannotRead {α : Type} (path : Bytes) (e : Errno) : Printer α :=
  die 2 (ascii "cannot read: " ++ fileName path ++ ascii ": " ++ e.libraryText.encode)

/-- Makes sure that files can be read. -/
def checkReadable (paths : List Bytes) : Printer Unit :=
  paths.forM fun path => do
    if path != ascii "-" then
      match ← serve (.inspect path true) with
      | .error e => cannotRead path e
      | .ok info => if info.allowed / 4 % 2 = 0 then cannotRead path .accessDenied

/-- The lines of an operand of `sort`. -/
def sortInput (ending : UInt8) (path : Bytes) : Printer (List Bytes) := do
  match ← openOperand path with
  | .error e => die 2 (ascii "open failed: " ++ fileName path ++ ascii ": " ++ e.libraryText.encode)
  | .ok d =>
    let result ← readAll d
    closeOperand d
    match result with
    | .ok bytes => return piecesOf ending bytes
    | .error e => die 2 (ascii "read failed: " ++ fileName path ++ ascii ": " ++ e.libraryText.encode)

/-- Makes sure that lines are in order; `quiet` says nothing about it if they are not. -/
def checkOrder (o : SortOptions) (quiet : Bool) (path : Bytes) : Printer Int := do
  let lines ← sortInput o.ending path
  match o.disorder? 1 lines with
  | none => return 0
  | some (n, line) =>
    if !quiet then complain (fileName path ++ ascii ":" ++ digits n ++ ascii ": disorder: " ++ line)
    return 1

/-- Writes lines to a file, in the place of what is there. -/
def writeFile (path bytes : Bytes) : Printer Unit := do
  match ← perform (.openFile path (.replacing 0o666)) with
  | .error e => die 2 (ascii "open failed: " ++ fileName path ++ ascii ": " ++ e.libraryText.encode)
  | .ok d =>
    let result ← writeAll d bytes
    let _ ← perform (.close d)
    match result with
    | .ok _ => return
    | .error e => die 2 (ascii "write failed: " ++ fileName path ++ ascii ": " ++ e.libraryText.encode)

def sort : Utility := printing 2 fun args => do
  let (args, oldKeys) := newKeys args.length args
  let a := Arguments.read sortRows args
  let o ← a.given.foldlM sortOption { keys := oldKeys }
  a.check 2
  let o := o.complete
  let incompatible (letters : Bytes) : Printer Unit :=
    die 2 (ascii "options '-" ++ letters ++ ascii "' are incompatible")
  (o.keys.filterMap (·.rules.conflict?)).forM incompatible
  let operands := operandsOr a.operands
  let quiet := a.has "C" || ["quiet", "silent"].any fun w => a.value? "c" == some (ascii w)
  if a.has "c" || a.has "C" then
    if a.has "o" && operands.length = 1 then incompatible [if quiet then 67 else 99, 111]
    match operands with
    | [path] => checkOrder o quiet path
    | _ :: extra :: _ =>
      die 2 (ascii "extra operand " ++ quoted extra ++ ascii " not allowed with -" ++
        ascii (if quiet then "C" else "c"))
    | [] => return 0
  else
    checkReadable operands
    let lines ← operands.mapM (sortInput o.ending)
    let shown := (o.sorted (a.has "m") lines).flatMap (· ++ [o.ending])
    match a.value? "o" with
    | none => say shown
    | some path => writeFile path shown
    return 0

/-! ### Repeated lines -/

/-- Which lines of a group are written. -/
structure UniqOptions where
  counts : Bool := false
  /-- Groups of one line, and groups of several lines, are left out. -/
  skipsSingle : Bool := false
  skipsRepeated : Bool := false
  /-- All lines of a group are written. -/
  wholeGroups : Bool := false
  /-- An empty line stands in front of the first group, between groups, and behind the last one. -/
  gapBefore : Bool := false
  gapBetween : Bool := false
  gapAfter : Bool := false
  foldsCase : Bool := false
  fields : Nat := 0
  chars : Nat := 0
  width : Option Nat := none
  ending : UInt8 := 10
deriving Repr

/-- What counts of a line. -/
def UniqOptions.keyOf (o : UniqOptions) (line : Bytes) : Bytes :=
  let rest := (skipFields none o.fields line).drop o.chars
  let rest := match o.width with
    | some n => rest.take n
    | none => rest
  if o.foldsCase then rest.map toUpper else rest

/-- Groups of lines in a row that count as equal. -/
def UniqOptions.groups (o : UniqOptions) : List Bytes → List (List Bytes)
  | [] => []
  | line :: rest =>
    match o.groups rest with
    | (first :: more) :: groups =>
      if o.keyOf line = o.keyOf first then (line :: first :: more) :: groups
      else [line] :: (first :: more) :: groups
    | groups => [line] :: groups

/-- Whether anything is written for a group. -/
def UniqOptions.takes (o : UniqOptions) (group : List Bytes) : Bool :=
  if 1 < group.length then !o.skipsRepeated else !o.skipsSingle

/-- What is written for a group. -/
def UniqOptions.show (o : UniqOptions) (group : List Bytes) : Bytes :=
  if o.wholeGroups then group.flatMap (· ++ [o.ending])
  else
    let count := if o.counts then padStart 32 7 (digits group.length) ++ [32] else []
    count ++ group.headD [] ++ [o.ending]

def uniqRows : List OptionRow :=
  [⟨some 'c', ["count"], .nothing⟩, ⟨some 'd', ["repeated"], .nothing⟩, ⟨some 'D', ["all-repeated"], .maybe⟩,
   ⟨none, ["group"], .maybe⟩, ⟨some 'i', ["ignore-case"], .nothing⟩, ⟨some 'u', ["unique"], .nothing⟩,
   ⟨some 'f', ["skip-fields"], .value⟩, ⟨some 's', ["skip-chars"], .value⟩,
   ⟨some 'w', ["check-chars"], .value⟩,
   ⟨some 'z', ["zero-terminated"], .nothing⟩]

/-- Reads a number, or ends the program. -/
def numberOrDie (fault : String) (text : Bytes) : Printer Nat :=
  match readSize "" text with
  | .ok n => return n
  | .error .tooLarge => return maxWord
  | .error .invalid => die 1 (text ++ ascii ": " ++ ascii fault)

/-- One of several words, which may be cut short, or the end of the program. -/
def choiceOrDie (option : String) (choices : List String) (word : Bytes) : Printer String := do
  match choices.find? fun c => ascii c == word with
  | some c => return c
  | none =>
    match choices.filter fun c => word.isPrefixOf (ascii c) with
    | [c] => return c
    | [] => misuse 1 (invalidChoice option choices word)
    | _ => misuse 1 (ascii "ambiguous" ++ (invalidChoice option choices word).drop 7)

/-- Applies an option of `uniq`. -/
def uniqOption (o : UniqOptions) (g : Given) : Printer UniqOptions := do
  match g.key, g.value with
  | "c", _ => return { o with counts := true }
  | "d", _ => return { o with skipsSingle := true }
  | "D", method =>
    let o := { o with skipsSingle := true, wholeGroups := true }
    match ← choiceOrDie "--all-repeated" ["none", "prepend", "separate"] (method.getD (ascii "none")) with
    | "prepend" => return { o with gapBefore := true, gapBetween := true }
    | "separate" => return { o with gapBetween := true }
    | _ => return o
  | "group", method =>
    let o := { o with wholeGroups := true, gapBetween := true }
    let choices := ["prepend", "append", "separate", "both"]
    match ← choiceOrDie "--group" choices (method.getD (ascii "separate")) with
    | "prepend" => return { o with gapBefore := true }
    | "append" => return { o with gapAfter := true }
    | "both" => return { o with gapBefore := true, gapAfter := true }
    | _ => return o
  | "f", some n => return { o with fields := ← numberOrDie "invalid number of fields to skip" n }
  | "i", _ => return { o with foldsCase := true }
  | "s", some n => return { o with chars := ← numberOrDie "invalid number of bytes to skip" n }
  | "u", _ => return { o with skipsRepeated := true }
  | "w", some n => return { o with width := some (← numberOrDie "invalid number of bytes to compare" n) }
  | "z", _ => return { o with ending := 0 }
  | _, _ => return o

/-- Takes an output file in the place of the standard output. -/
def redirectOutput (path : Bytes) : Printer Unit := do
  match ← perform (.openFile path (.replacing 0o666)) with
  | .error e => die 1 (fileName path ++ ascii ": " ++ e.libraryText.encode)
  | .ok d =>
    let _ ← perform (.duplicate d 1)
    let _ ← perform (.close d)

def uniq : Utility := printing 1 fun args => do
  let a := Arguments.read uniqRows args
  let o ← a.given.foldlM uniqOption {}
  a.check 1
  if let _ :: _ :: extra :: _ := a.operands then misuse 1 (ascii "extra operand " ++ quoted extra)
  if a.has "group" && ["c", "d", "D", "u"].any a.has then
    misuse 1 (ascii "--group is mutually exclusive with -c/-d/-D/-u")
  if o.counts && o.wholeGroups then
    misuse 1 (ascii "printing all duplicated lines and repeat counts is meaningless")
  let path := a.operands.headD (ascii "-")
  match ← openOperand path with
  | .error e => die 1 (fileName path ++ ascii ": " ++ e.libraryText.encode)
  | .ok d =>
    if let some output := a.operands[1]? then
      if output != ascii "-" then redirectOutput output
    match ← readAll d with
    | .error e => die 1 (ascii "error reading " ++ quoted path ++ ascii ": " ++ e.libraryText.encode)
    | .ok bytes =>
      let shown := ((o.groups (piecesOf o.ending bytes)).filter o.takes).map o.show
      let gap (there : Bool) : Bytes := if there && !shown.isEmpty then [o.ending] else []
      say (gap o.gapBefore)
      (shown.intersperse (gap o.gapBetween)).forM say
      say (gap o.gapAfter)
      return 0

/-! ### Comparing sorted lines -/

/-- One of two inputs that are compared: the lines that are left, and the two in front of them. -/
structure CommSide where
  rest : List Bytes
  behind : Option Bytes := none
  before : Option Bytes := none
  /-- The input is not in order, which was said. -/
  disordered : Bool := false

/-- What was found out about two inputs until now. -/
structure CommState where
  first : CommSide
  second : CommSide
  /-- Some line was in one input only. -/
  unpaired : Bool := false
  totals : Nat × Nat × Nat := (0, 0, 0)

/-- How two inputs are compared. -/
structure CommOptions where
  hidden : Nat → Bool
  delimiter : Bytes
  ending : UInt8
  /-- Order is always looked at, or never; else it is where lines are in one input only. -/
  strict : Bool
  lax : Bool

/-- Says that an input is not in order, if two of its lines are not. -/
def CommOptions.check (o : CommOptions) (unpaired : Bool) (number : Nat) (side : CommSide) (a b : Bytes) :
    Printer CommSide := do
  if !o.lax && (o.strict || unpaired) && !side.disordered && !before a b then
    let message := ascii ("file " ++ toString number ++ " is not in sorted order")
    if o.strict then die 1 message
    else
      complain message
      return { side with disordered := true }
  else return side

/-- Goes on to the next line of an input. -/
def CommOptions.step (o : CommOptions) (unpaired : Bool) (number : Nat) (side : CommSide) :
    Printer CommSide := do
  match side.rest with
  | [] => return side
  | line :: rest =>
    let side := { side with rest, before := side.behind, behind := some line }
    match rest, side.before with
    | next :: _, _ => o.check unpaired number side line next
    | [], some earlier => o.check unpaired number side earlier line
    | [], none => return side

/-- Writes a line in its column. -/
def CommOptions.show (o : CommOptions) (column : Nat) (line : Bytes) : Printer Unit := do
  if !o.hidden column then
    let gaps := ((List.range' 1 (column - 1)).filter fun n => !o.hidden n).length
    say ((List.replicate gaps o.delimiter).flatten ++ line ++ [o.ending])

/-- Compares two inputs, line by line. -/
def CommOptions.run (o : CommOptions) : Nat → CommState → Printer CommState
  | 0, s => return s
  | fuel + 1, s => do
    let order? := match s.first.rest, s.second.rest with
      | [], [] => none
      | [], b :: _ => some (Ordering.gt, b)
      | a :: _, [] => some (Ordering.lt, a)
      | a :: _, b :: _ => some (compareBytes a b, if before a b then a else b)
    match order? with
    | none => return s
    | some (order, line) =>
      let (one, two, three) := s.totals
      match order with
      | .eq =>
        o.show 3 line
        let first ← o.step s.unpaired 1 s.first
        let second ← o.step s.unpaired 2 s.second
        run o fuel { s with first, second, totals := (one, two, three + 1) }
      | .lt =>
        o.show 1 line
        let first ← o.step true 1 s.first
        run o fuel { s with first, unpaired := true, totals := (one + 1, two, three) }
      | .gt =>
        o.show 2 line
        let second ← o.step true 2 s.second
        run o fuel { s with second, unpaired := true, totals := (one, two + 1, three) }

def commRows : List OptionRow :=
  [⟨some '1', [], .nothing⟩, ⟨some '2', [], .nothing⟩, ⟨some '3', [], .nothing⟩,
   ⟨none, ["check-order"], .nothing⟩, ⟨none, ["nocheck-order"], .nothing⟩,
   ⟨none, ["output-delimiter"], .value⟩, ⟨none, ["total"], .nothing⟩,
   ⟨some 'z', ["zero-terminated"], .nothing⟩]

def comm : Utility := printing 1 fun args => do
  let a := Arguments.read commRows args
  a.check 1
  let ending : UInt8 := if a.has "z" then 0 else 10
  match a.operands with
  | [] => misuse 1 (ascii "missing operand")
  | [one] => misuse 1 (ascii "missing operand after " ++ quoted one)
  | _ :: _ :: extra :: _ => misuse 1 (ascii "extra operand " ++ quoted extra)
  | [one, two] =>
    let read (path : Bytes) : Printer (List Bytes) := do
      match ← readOperand path with
      | .ok bytes => return piecesOf ending bytes
      | .error e => die 1 (fileName path ++ ascii ": " ++ e.libraryText.encode)
    let first ← read one
    let second ← read two
    let order := a.last? ["check-order", "nocheck-order"]
    let o : CommOptions :=
      { hidden := fun n => a.has (toString n), delimiter := (a.value? "output-delimiter").getD [9], ending
        strict := order = some "check-order", lax := order = some "nocheck-order" }
    let lines := first.length + second.length
    let s ← o.run (lines + 1) { first := { rest := first }, second := { rest := second } }
    if a.has "total" then
      let (one, two, three) := s.totals
      say (o.delimiter.intercalate [digits one, digits two, digits three, ascii "total"] ++ [ending])
    if s.first.disordered || s.second.disordered then
      complain (ascii "input is not in sorted order")
      return 1
    else return 0

end JobShell.Utility
