import JobShell.Utility.Mode
import JobShell.Utility.Order

/-! # Listings

`ls` lists files and the entries of directories, in order. Operands that are no directories come first; then
comes each directory, under its name if there are several operands. -/

namespace JobShell.Utility

open Printer

/-- A name in a listing, with what it leads to. -/
structure Listed where
  name : Bytes
  path : Bytes
  info : FileInfo

/-- How names are laid out. -/
inductive Layout
  | lines
  | commas
  /-- Columns that are read downwards, or across. -/
  | columns (across : Bool)
  | long
deriving DecidableEq, Repr

/-- The order of a listing. -/
inductive ListingOrder
  | name
  | size
  | ending
  | version
  | width
  | none
deriving DecidableEq, Repr

/-- How names are written. -/
inductive NameStyle
  | plain
  /-- Between double quotes. -/
  | quoted
  /-- With backslashes in front of what could be misread. -/
  | escaped
deriving DecidableEq, Repr

/-- A name as it is written. -/
def NameStyle.show (s : NameStyle) (name : Bytes) : Bytes :=
  let inside (special : UInt8) : Bytes := name.flatMap fun b =>
    if b == special || b == 92 then [92, b] else if isPrintable b then [b] else Utility.escaped b
  match s with
  | plain => name
  | quoted => 34 :: inside 34 ++ [34]
  | escaped => inside 32

/-- What a listing shows, and in which order. -/
structure ListingOptions where
  layout : Layout := .lines
  /-- Names that begin with a dot are shown, and with `dots` those that every directory has. -/
  hidden : Bool := false
  dots : Bool := false
  /-- Directories are listed as files are. -/
  plain : Bool := false
  recursive : Bool := false
  /-- A character behind a name says what kind of file it is; or only directories are marked. -/
  marks : Bool := false
  marksDirectories : Bool := false
  reverse : Bool := false
  order : ListingOrder := .name
  style : NameStyle := .plain
  /-- Links are followed. -/
  follows : Bool := false
deriving Repr

namespace ListingOptions

/-- Whether one entry comes before another. -/
def precedes (o : ListingOptions) (a b : Listed) : Bool :=
  let a' := if o.reverse then b else a
  let b' := if o.reverse then a else b
  let byName := before a'.name b'.name
  let ending (e : Listed) : Bytes :=
    let behind := (e.name.reverse.takeWhile (· != 46)).reverse
    if behind.length = e.name.length then [] else 46 :: behind
  match o.order with
  | .size => if a'.info.size = b'.info.size then byName else b'.info.size < a'.info.size
  | .width => if a'.name.length = b'.name.length then byName else a'.name.length < b'.name.length
  | .ending =>
    match compareBytes (ending a') (ending b') with
    | .eq => byName
    | order => order == .lt
  | .version =>
    match compareVersions (a'.name.length + b'.name.length + 1) a'.name b'.name with
    | .eq => byName
    | order => order == .lt
  | _ => byName

/-- Entries in the order of the listing. -/
def sorted (o : ListingOptions) (all : List Listed) : List Listed :=
  if o.order = .none then all else all.mergeSort o.precedes

/-- The character behind the name of an entry. -/
def mark (o : ListingOptions) (info : FileInfo) : Bytes :=
  match info.kind with
  | .directory => if o.marks || o.marksDirectories then [47] else []
  | .link => if o.marks then [64] else []
  | .fifo => if o.marks then [124] else []
  | .file => if o.marks && info.mode.land 0o111 != 0 then [42] else []
  | .device => []

/-- An entry as it is shown. -/
def label (o : ListingOptions) (e : Listed) : Bytes :=
  o.style.show e.name ++ o.mark e.info

end ListingOptions

/-! ### Layouts -/

/-- How wide a listing is. -/
def listingWidth : Nat := 80

/-- Names with commas between them, in lines that are not too long; the first name ends in a column. -/
def commaLines : Nat → List Bytes → Bytes
  | _, [] => []
  | column, name :: rest =>
    if column + name.length + 2 < listingWidth then
      ascii ", " ++ name ++ commaLines (column + name.length + 2) rest
    else ascii ",\n" ++ name ++ commaLines name.length rest

/-- The widths of columns if there are so many, with the blanks between them. -/
def columnWidths (across : Bool) (count : Nat) (widths : List Nat) : List Nat :=
  let rows := (widths.length + count - 1) / count
  let placed := widths.zip (List.range widths.length)
  (List.range count).map fun column =>
    let here := placed.filter fun p => (if across then p.2 % count else p.2 / rows) == column
    here.foldl (fun w p => max w (p.1 + (if column + 1 = count then 0 else 2))) 3

/-- Blanks from one column to another, tabs where they fit. -/
def indent : Nat → Nat → Nat → Bytes
  | 0, _, _ => []
  | fuel + 1, column, goal =>
    if goal ≤ column then []
    else if (column + 1) / 8 < goal / 8 then 9 :: indent fuel (column + 8 - column % 8) goal
    else 32 :: indent fuel (column + 1) goal

/-- One row of a table: where its columns begin, and its names. -/
def tableRow : Nat → Nat → List (Nat × Bytes) → Bytes
  | _, _, [] => []
  | start, column, (width, name) :: rest =>
    indent (start - column) column start ++ name ++ tableRow (start + width) (start + name.length) rest

/-- Names in as many columns as there is room for. -/
def columnLines (across : Bool) (names : List Bytes) : Bytes :=
  let widths := names.map (·.length)
  let most := min names.length (listingWidth / 3)
  let fits (count : Nat) : Bool := (columnWidths across count widths).foldl (· + ·) 0 < listingWidth
  let count := ((List.range' 1 most).reverse.find? fits).getD 1
  let columns := columnWidths across count widths
  let rows := (names.length + count - 1) / count
  let placed := names.zip (List.range names.length)
  (List.range rows).flatMap fun row =>
    let here := placed.filter fun p => (if across then p.2 / count else p.2 % rows) == row
    tableRow 0 0 (columns.zip (here.map (·.1))) ++ [10]

/-- Permissions in letters. -/
def modeLetters (info : FileInfo) : Bytes :=
  let kind : Char := match info.kind with
    | .directory => 'd'
    | .link => 'l'
    | .fifo => 'p'
    | .device => 'c'
    | .file => '-'
  byte kind :: modeText info.mode

/-- Writes one entry with its permissions, its names and its size. -/
def longLine (o : ListingOptions) (e : Listed) : Bytes :=
  [32].intercalate [modeLetters e.info, digits e.info.names, ascii "root root", digits e.info.size,
    ascii "Jan  1  1970", o.label e] ++ [10]

/-- Writes entries in the layout of the listing. -/
def showEntries (o : ListingOptions) (entries : List Listed) : Printer Unit := do
  let names := entries.map o.label
  match o.layout with
  | .lines => names.forM fun name => say (name ++ [10])
  | .commas =>
    if let first :: rest := names then say (first ++ commaLines first.length rest ++ [10])
  | .columns across => if !names.isEmpty then say (columnLines across names)
  | .long => entries.forM fun e => say (longLine o e)

/-! ### Directories -/

/-- Whether the name of an entry is shown. -/
def ListingOptions.shows (o : ListingOptions) (name : Bytes) : Bool :=
  o.hidden || name.head? != some 46

/-- What an entry is, with links followed or not; a link that leads nowhere is itself. -/
def entryInfo (follows : Bool) (path : Bytes) : Printer (Except Errno FileInfo) := do
  match ← serve (.inspect path follows) with
  | .ok info => return .ok info
  | .error e => if follows then serve (.inspect path false) else return .error e

/-- The path of an entry of a directory. -/
def joinPath (directory name : Bytes) : Bytes :=
  if directory.getLast? = some 47 then directory ++ name else directory ++ 47 :: name

/-- The entries of a directory that are shown. -/
def directoryEntries (o : ListingOptions) (directory : Bytes) (names : List Bytes) :
    Printer (List Listed) := do
  let all := (if o.hidden && o.dots then [[46], [46, 46]] else []) ++ names.filter o.shows
  let found ← all.mapM fun name => do
    let path := joinPath directory name
    match ← entryInfo o.follows path with
    | .ok info => return some ⟨name, path, info⟩
    | .error e =>
      complainOf (ascii "cannot access " ++ shellQuoted path) e
      return none
  return o.sorted (found.filterMap id)

/-- Whether a directory below another one is listed too. -/
def isInner (e : Listed) : Bool :=
  e.info.kind == .directory && e.name != [46] && e.name != [46, 46]

/-- What was listed: whether nothing was, and the exit code. -/
structure Progress where
  first : Bool
  code : Int

/-- Lists directories, each under its name if `named`; the directories below them follow if asked for. -/
def listDirectories (o : ListingOptions) (named given : Bool) : Nat → Progress → List Bytes → Printer Progress
  | 0, p, _ => return p
  | _, p, [] => return p
  | fuel + 1, p, directory :: rest => do
    match ← serve (.list directory) with
    | .error e =>
      complainOf (ascii "cannot open directory " ++ shellQuoted directory) e
      listDirectories o named given fuel { p with code := if given then 2 else max p.code 1 } rest
    | .ok names =>
      let entries ← directoryEntries o directory names
      if named then say ((if p.first then [] else [10]) ++ directory ++ ascii ":\n")
      if o.layout = .long then say (ascii "total 0\n")
      showEntries o entries
      let p := { p with first := false }
      let inner := if o.recursive then (entries.filter isInner).map (·.path) else []
      let p ← if inner.isEmpty then pure p else listDirectories o named false fuel p inner
      listDirectories o named given fuel p rest

/-- How many directories a listing may go through. -/
def maxListed : Nat := 1000

/-! ### The program -/

def lsRows : List OptionRow :=
  [⟨some 'a', ["all"], .nothing⟩, ⟨some 'A', ["almost-all"], .nothing⟩, ⟨some 'd', ["directory"], .nothing⟩,
   ⟨some 'F', ["classify"], .maybe⟩, ⟨some 'L', ["dereference"], .nothing⟩, ⟨some 'r', ["reverse"], .nothing⟩,
   ⟨some 'R', ["recursive"], .nothing⟩, ⟨none, ["color"], .maybe⟩, ⟨none, ["file-type"], .nothing⟩,
   ⟨none, ["group-directories-first"], .nothing⟩, ⟨none, ["sort"], .value⟩,
   ⟨some 'w', ["width"], .value⟩, ⟨some 'I', ["ignore"], .value⟩, ⟨some 'T', ["tabsize"], .value⟩,
   ⟨some 'b', ["escape"], .nothing⟩, ⟨some 'Q', ["quote-name"], .nothing⟩,
   ⟨some 'N', ["literal"], .nothing⟩] ++
    letters "1CSUXfghklmnopqstuvxBGHci"

/-- The words for orders. -/
def orderWords : List (String × ListingOrder) :=
  [("none", .none), ("time", .name), ("size", .size), ("extension", .ending), ("version", .version),
   ("width", .width)]

/-- Applies an option of `ls`. -/
def lsOption (o : ListingOptions) (g : Given) : ListingOptions :=
  match g.key with
  | "a" => { o with hidden := true, dots := true }
  | "A" => { o with hidden := true, dots := false }
  | "d" => { o with plain := true }
  | "F" => { o with marks := true }
  | "p" => { o with marksDirectories := true }
  | "L" => { o with follows := true }
  | "r" => { o with reverse := true }
  | "R" => { o with recursive := true }
  | "S" => { o with order := .size }
  | "U" => { o with order := .none }
  | "X" => { o with order := .ending }
  | "v" => { o with order := .version }
  | "sort" =>
    match orderWords.find? fun w => (g.value.getD []).isPrefixOf (ascii w.1) with
    | some w => { o with order := w.2 }
    | none => o
  | "b" => { o with style := .escaped }
  | "Q" => { o with style := .quoted }
  | "N" => { o with style := .plain }
  | "f" => { o with order := .none, hidden := true, dots := true }
  | "1" => if o.layout = .long then o else { o with layout := .lines }
  | "C" => { o with layout := .columns false }
  | "x" => { o with layout := .columns true }
  | "m" => { o with layout := .commas }
  | "l" | "g" | "n" | "o" => { o with layout := .long }
  | _ => o

/-- What an operand is: a link to a directory is that directory, unless the listing is about links. -/
def operandInfo (o : ListingOptions) (path : Bytes) : Printer (Except Errno FileInfo) := do
  if o.follows then serve (.inspect path true)
  else if o.plain || o.marks || o.layout = .long then serve (.inspect path false)
  else
    match ← serve (.inspect path true) with
    | .ok info => if info.kind = .directory then return .ok info else serve (.inspect path false)
    | .error e => if e = .noEntry then serve (.inspect path false) else return .error e

def ls : Utility := printing 2 fun args => do
  let a := Arguments.read lsRows args
  a.check 2
  a.given.forM fun g => do
    let word := g.value.getD []
    if g.key = "sort" && !(orderWords.any fun w => word.isPrefixOf (ascii w.1)) then
      -- Unlike other faults of the arguments, this one ends the program with 1.
      misuse 1 (invalidChoice "--sort" (orderWords.map (·.1)) word)
  let o := a.given.foldl lsOption {}
  let operands := if a.operands.isEmpty then [[46]] else a.operands
  let found ← operands.mapM fun path => do
    match ← operandInfo o path with
    | .ok info => return some (Listed.mk path path info)
    | .error e =>
      complainOf (ascii "cannot access " ++ shellQuoted path) e
      return none
  let code := if found.all (·.isSome) then 0 else 2
  let sorted := o.sorted (found.filterMap id)
  let isDirectory (e : Listed) : Bool := !o.plain && e.info.kind == .directory
  let files := sorted.filter fun e => !isDirectory e
  let directories := (sorted.filter isDirectory).map (·.path)
  showEntries o files
  if !files.isEmpty && !directories.isEmpty then say [10]
  let named := o.recursive || operands.length > 1 || !files.isEmpty || directories.length > 1
  let p ← listDirectories o named true maxListed ⟨true, code⟩ directories
  return p.code

end JobShell.Utility
