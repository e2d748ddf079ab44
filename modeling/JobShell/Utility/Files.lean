import JobShell.Utility.Mode
import JobShell.Utility.Numeral
import JobShell.Utility.Options

/-! # Programs that make and mark files

`mkdir` and `mkfifo` make directories and fifos, `rmdir` takes empty directories away, `touch` makes sure that
a file is there, `chmod` changes permissions, and `truncate` the length of a file. -/

namespace JobShell.Utility

open Printer

/-- Ends the program if it has no operands. -/
def needOperand (a : Arguments) (noun : String) : Printer Unit :=
  if a.operands.isEmpty then misuse 1 (ascii "missing " ++ ascii noun) else return

/-- The mask of the process. -/
def currentMask : Printer Nat := do
  let mask ← serve (.setMask 0)
  let _ ← serve (.setMask mask)
  return mask

/-- The permissions that an option asks for, for something new. -/
def newMode (a : Arguments) (isDirectory : Bool) (usual : Nat) : Printer (Option Nat) := do
  match a.value? "m" with
  | none => return none
  | some text =>
    match readMode? text with
    | none => die 1 (ascii (if isDirectory then "invalid mode " else "invalid mode") ++
        (if isDirectory then quoted text else []))
    | some spec =>
      let mask ← currentMask
      return some (spec.apply isDirectory mask usual)

/-! ### Directories -/

/-- A path without the slashes at its end. -/
def trimSlashes (path : Bytes) : Bytes :=
  let kept := (path.reverse.dropWhile (· == 47)).reverse
  if kept.isEmpty then path.take 1 else kept

/-- The paths of the directories that a path leads through, the outermost first. -/
def ancestors (path : Bytes) : List Bytes :=
  let trimmed := trimSlashes path
  (List.range trimmed.length).filterMap fun (i : Nat) =>
    let isEnd := trimmed[i]? == some 47 && i != 0 && trimmed[i - 1]? != some 47
    if isEnd then some (trimmed.take i) else none

/-- Whether a path leads to a directory. -/
def isDirectory (path : Bytes) : Printer Bool := do
  match ← serve (.inspect path true) with
  | .ok info => return info.kind == .directory
  | .error _ => return false

/-- Makes a directory. -/
def makeDirectory (verbose : Bool) (mode : Option Nat) (path : Bytes) : Printer (Except Errno Unit) := do
  match ← serve (.makeDirectory path 0o777) with
  | .error e => return .error e
  | .ok _ =>
    if verbose then say ((← get).name ++ ascii ": created directory " ++ shellQuoted path ++ [10])
    match mode with
    | some mode => serve (.changeMode path mode)
    | none => return .ok ()

/-- Makes the directories that a path leads through, as far as they are not there. -/
def makeAncestors (verbose : Bool) : List Bytes → Printer Bool
  | [] => return true
  | path :: rest => do
    match ← makeDirectory verbose none path with
    | .ok _ => makeAncestors verbose rest
    | .error e =>
      if ← isDirectory path then makeAncestors verbose rest
      else
        complainOf (ascii "cannot create directory " ++ shellQuoted path)
          (if e = .fileExists then .notDirectory else e)
        return false

def mkdirRows : List OptionRow :=
  [⟨some 'm', ["mode"], .value⟩, ⟨some 'p', ["parents"], .nothing⟩, ⟨some 'v', ["verbose"], .nothing⟩,
   ⟨some 'Z', ["context"], .maybe⟩]

def mkdir : Utility := printing 1 fun args => do
  let a := Arguments.read mkdirRows args
  a.check 1
  needOperand a "operand"
  let mode ← newMode a true 0o777
  let verbose := a.has "v"
  let well ← all a.operands fun path => do
    if !(← (if a.has "p" then makeAncestors verbose (ancestors path) else pure true)) then return false
    else
      match ← makeDirectory verbose mode path with
      | .ok _ => return true
      | .error e =>
        if a.has "p" && (← isDirectory path) then return true
        else
          complainOf (ascii "cannot create directory " ++ shellQuoted path) e
          return false
  return codeOf well

def rmdirRows : List OptionRow :=
  [⟨some 'p', ["parents"], .nothing⟩, ⟨none, ["ignore-fail-on-non-empty"], .nothing⟩,
   ⟨some 'v', ["verbose"], .nothing⟩]

/-- Takes directories away, one after the other, until one cannot be taken away. -/
def removeDirectories (a : Arguments) (given : Bool) : List Bytes → Printer Bool
  | [] => return true
  | path :: rest => do
    if a.has "v" then say ((← get).name ++ ascii ": removing directory, " ++ shellQuoted path ++ [10])
    match ← serve (.removeDirectory path) with
    | .ok _ => removeDirectories a false rest
    | .error e =>
      if e = .notEmpty && a.has "ignore-fail-on-non-empty" then return true
      else
        let what := if given then ascii "failed to remove " else ascii "failed to remove directory "
        complainOf (what ++ shellQuoted path) e
        return false

def rmdir : Utility := printing 1 fun args => do
  let a := Arguments.read rmdirRows args
  a.check 1
  needOperand a "operand"
  let well ← all a.operands fun path =>
    let more := if a.has "p" then (ancestors path).reverse else []
    removeDirectories a true (path :: more)
  return codeOf well

/-! ### Files -/

def mkfifoRows : List OptionRow := [⟨some 'm', ["mode"], .value⟩, ⟨some 'Z', ["context"], .maybe⟩]

def mkfifo : Utility := printing 1 fun args => do
  let a := Arguments.read mkfifoRows args
  a.check 1
  needOperand a "operand"
  let mode ← newMode a false 0o666
  let well ← all a.operands fun path => do
    match ← serve (.makeFifo path 0o666) with
    | .ok _ =>
      if let some mode := mode then
        let _ ← serve (.changeMode path mode)
      return true
    | .error e =>
      complainOf (ascii "cannot create fifo " ++ shellQuoted path) e
      return false
  return codeOf well

def touchRows : List OptionRow :=
  [⟨some 'a', [], .nothing⟩, ⟨some 'c', ["no-create"], .nothing⟩, ⟨some 'd', ["date"], .value⟩,
   ⟨some 'f', [], .nothing⟩, ⟨some 'h', ["no-dereference"], .nothing⟩, ⟨some 'm', [], .nothing⟩,
   ⟨some 'r', ["reference"], .value⟩, ⟨some 't', [], .value⟩, ⟨none, ["time"], .value⟩]

/-- Why the times of a file cannot be set, if so. -/
def timesError? (path : Bytes) (follow : Bool) : Printer (Option Errno) := do
  match ← serve (.inspect path follow) with
  | .error e => return some e
  | .ok info => return if info.owned || info.allowed / 2 % 2 = 1 then none else some .accessDenied

/-- Makes sure that a file is there. -/
def touchFile (create follow : Bool) (path : Bytes) : Printer Bool := do
  let isFifo := match ← serve (.inspect path true) with
    | .ok info => info.kind == .fifo
    | .error _ => false
  let opened ←
    if !create || !follow || isFifo then pure (.ok 0) else perform (.openFile path (.touching 0o666))
  if let .ok (d + 1) := opened then
    let _ ← perform (.close (d + 1))
  match ← timesError? path follow, opened with
  | none, _ => return true
  | some e, .ok _ =>
    if !create && e = .noEntry then return true
    else
      complainOf (ascii "setting times of " ++ shellQuoted path) e
      return false
  | some e, .error reason =>
    if reason = .isDirectory then complainOf (ascii "setting times of " ++ shellQuoted path) e
    else complainOf (ascii "cannot touch " ++ shellQuoted path) reason
    return false

/-- Whether a text is a time in digits: month, day, hour and minute, with the year in front and the second
behind a point if they are there. -/
def isStamp (text : Bytes) : Bool :=
  let front := text.takeWhile (· != 46)
  let behind := text.drop front.length
  let two (all : Bytes) : Nat := (readNat? (all.take 2)).getD 100
  let inside := front.drop (front.length - 8)
  front.all isDigit && [8, 10, 12].contains front.length && 1 ≤ two inside && two inside ≤ 12 &&
    1 ≤ two (inside.drop 2) && two (inside.drop 2) ≤ 31 && two (inside.drop 4) ≤ 23 &&
      two (inside.drop 6) ≤ 59 &&
    (behind.isEmpty || (behind.length = 3 && two behind.tail ≤ 60))

def touch : Utility := printing 1 fun args => do
  let a := Arguments.read touchRows args
  a.check 1
  needOperand a "file operand"
  if let some reference := a.value? "r" then
    if let .error e ← serve (.inspect reference (!a.has "h")) then
      die 1 (ascii "failed to get attributes of " ++ shellQuoted reference ++ ascii ": " ++
        e.libraryText.encode)
  if let some time := a.value? "t" then
    if !isStamp time then die 1 (ascii "invalid date format " ++ quoted time)
  let well ← all a.operands fun path =>
    if path = ascii "-" then return true else touchFile (!a.has "c") (!a.has "h") path
  return codeOf well

def truncateRows : List OptionRow :=
  [⟨some 'c', ["no-create"], .nothing⟩, ⟨some 'o', ["io-blocks"], .nothing⟩,
   ⟨some 'r', ["reference"], .value⟩, ⟨some 's', ["size"], .value⟩]

/-- The size that a file is to have, from the one it has. -/
def newSize (sign : Option Char) (n old : Nat) : Nat :=
  match sign with
  | some '+' => old + n
  | some '-' => old - n
  | some '<' => min old n
  | some '>' => max old n
  | some '/' => if n = 0 then old else old / n * n
  | some '%' => if n = 0 then old else (old + n - 1) / n * n
  | _ => n

/-- Reads a size with a sign that says how it is meant. -/
def readNewSize (text : Bytes) : Printer (Option Char × Nat) := do
  let trimmed := trimStart text
  let c := charOf (trimmed.headD 0)
  let (sign, rest) := if "+-<>/%".toList.contains c then (some c, trimmed.tail) else (none, trimmed)
  match readSize "EgGkKmMPtTYZRQ0" rest with
  | .ok n => return (sign, n)
  | .error _ => die 1 (ascii "Invalid number: " ++ quoted text)

def truncate : Utility := printing 1 fun args => do
  let a := Arguments.read truncateRows args
  a.check 1
  match a.value? "s", a.value? "r" with
  | none, none => misuse 1 (ascii "you must specify either '--size' or '--reference'")
  | text, reference =>
    let (sign, n) ← match text with
      | some text => readNewSize text
      | none => pure (some '+', 0)
    if reference.isSome && text.isSome && sign.isNone then
      misuse 1 (ascii "you must specify a relative '--size' with '--reference'")
    let given ← match reference with
      | none => pure none
      | some path =>
        match ← serve (.inspect path true) with
        | .ok info => pure (some info.size)
        | .error e => die 1 (ascii "cannot stat " ++ shellQuoted path ++ ascii ": " ++ e.libraryText.encode)
    needOperand a "file operand"
    let access : Access :=
      { reads := false, writes := true, creates := if a.has "c" then none else some 0o666 }
    let well ← all a.operands fun path => do
      match ← perform (.openFile path access) with
      | .error e =>
        if a.has "c" && e = .noEntry then return true
        else
          complainOf (ascii "cannot open " ++ shellQuoted path ++ ascii " for writing") e
          return false
      | .ok d =>
        let own := match ← serve (.describe d) with
          | .ok info => info.size
          | .error _ => 0
        let old := given.getD own
        let result ← serve (.resize d (newSize sign n old))
        let _ ← perform (.close d)
        match result with
        | .ok _ => return true
        | .error e =>
          complainOf (ascii "failed to truncate " ++ shellQuoted path ++ ascii " at " ++
            digits (newSize sign n old) ++ ascii " bytes") e
          return false
    return codeOf well

/-! ### Permissions -/

def chmodRows : List OptionRow :=
  [⟨some 'c', ["changes"], .nothing⟩, ⟨some 'f', ["silent", "quiet"], .nothing⟩,
   ⟨some 'R', ["recursive"], .nothing⟩, ⟨some 'v', ["verbose"], .nothing⟩, ⟨none, ["reference"], .value⟩]

/-- Whether an argument is a change of permissions that begins with a minus sign. -/
def isMinusMode (arg : Bytes) : Bool :=
  match arg with
  | 45 :: b :: _ => "rwxXstugoa,+=01234567".toList.contains (charOf b)
  | _ => false

/-- Changes the permissions of files, and below directories if asked for. -/
def changeModes (a : Arguments) (spec : ModeSpec) (mask : Nat) : Nat → List Bytes → Printer Bool
  | 0, _ => return true
  | _, [] => return true
  | fuel + 1, path :: rest => do
    let well ← do
      match ← serve (.inspect path true) with
      | .error e =>
        if !a.has "f" then
          match ← serve (.inspect path false) with
          | .ok _ => complain (ascii "cannot operate on dangling symlink " ++ shellQuoted path)
          | .error _ => complainOf (ascii "cannot access " ++ shellQuoted path) e
        pure false
      | .ok info =>
        let mode := spec.apply (info.kind == .directory) mask info.mode
        match ← serve (.changeMode path mode) with
        | .error e =>
          if !a.has "f" then complainOf (ascii "changing permissions of " ++ shellQuoted path) e
          pure false
        | .ok _ =>
          if a.has "v" || (a.has "c" && mode != info.mode) then
            if mode = info.mode then
              say (ascii "mode of " ++ shellQuoted path ++ ascii " retained as " ++ modeShown mode ++ [10])
            else
              say (ascii "mode of " ++ shellQuoted path ++ ascii " changed from " ++ modeShown info.mode ++
                ascii " to " ++ modeShown mode ++ [10])
          if a.has "R" && info.kind = .directory then
            match ← serve (.list path) with
            | .ok names => changeModes a spec mask fuel (names.map fun n => trimSlashes path ++ 47 :: n)
            | .error e =>
              complainOf (ascii "cannot read directory " ++ shellQuoted path) e
              pure false
          else pure true
    let more ← changeModes a spec mask fuel rest
    return well && more

def chmod : Utility := printing 1 fun args => do
  let minus := args.find? isMinusMode
  let a := Arguments.read chmodRows (args.filter fun arg => !isMinusMode arg)
  a.check 1
  let (mode, paths) := match minus with
    | some mode => (some mode, a.operands)
    | none => (a.operands.head?, a.operands.tail)
  match a.value? "reference", mode with
  | some reference, _ =>
    if a.operands.isEmpty then misuse 1 (ascii "missing operand")
    match ← serve (.inspect reference true) with
    | .error e => die 1 (ascii "failed to get attributes of " ++ shellQuoted reference ++ ascii ": " ++
        e.libraryText.encode)
    | .ok info => return codeOf (← changeModes a (.absolute info.mode) 0 1000 a.operands)
  | none, none => misuse 1 (ascii "missing operand")
  | none, some text =>
    if paths.isEmpty then misuse 1 (ascii "missing operand after " ++ quoted text)
    else
      match readMode? text with
      | none => misuse 1 (ascii "invalid mode: " ++ quoted text)
      | some spec => return codeOf (← changeModes a spec (← currentMask) 1000 paths)

end JobShell.Utility
