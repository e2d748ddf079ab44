import JobShell.Utility.Files
import JobShell.Utility.Name

/-! # Programs that copy, move, link and remove files

The last operand of `cp`, `mv` and `ln` may be a directory: then the files come into it, under their own
names. -/

namespace JobShell.Utility

open Printer

/-- How deep trees of directories are followed. -/
def maxDepth : Nat := 200

/-! ### Targets -/

/-- What the operands say: the sources, the target, and whether the target is a directory to put them into. -/
structure Destination where
  sources : List Bytes
  target : Bytes
  into : Bool

/-- The path under which a source comes into a directory. -/
def pathInto (directory source : Bytes) : Bytes :=
  let name := lastName source
  if name = [46, 46] then directory
  else if directory.getLast? = some 47 then directory ++ name else directory ++ 47 :: name

/-- Whether a path can be used as a directory, or why not. -/
def directoryError? (path : Bytes) : Printer (Option Errno) := do
  match ← serve (.inspect path true) with
  | .error e => return some e
  | .ok info => return if info.kind = .directory then none else some .notDirectory

/-- Reads the operands of a program that has a target. -/
def destination (a : Arguments) : Printer Destination := do
  let operands := a.operands
  match a.value? "t" with
  | some directory =>
    if operands.isEmpty then misuse 1 (ascii "missing file operand")
    if let some e ← directoryError? directory then
      die 1 (ascii "target directory " ++ shellQuoted directory ++ ascii ": " ++ e.libraryText.encode)
    return ⟨operands, directory, true⟩
  | none =>
    match operands.reverse with
    | [] => misuse 1 (ascii "missing file operand")
    | [only] => misuse 1 (ascii "missing destination file operand after " ++ shellQuoted only)
    | target :: sources =>
      let sources := sources.reverse
      if a.has "T" then
        if let some extra := operands[2]? then misuse 1 (ascii "extra operand " ++ shellQuoted extra)
        return ⟨sources, target, false⟩
      else
        match ← directoryError? target with
        | none => return ⟨sources, target, true⟩
        | some e =>
          if sources.length > 1 then
            die 1 (ascii "target " ++ shellQuoted target ++ ascii ": " ++ e.libraryText.encode)
          else return ⟨sources, target, false⟩

/-- Does a step for each source with the path that it shall have. -/
def Destination.each (d : Destination) (step : Bytes → Bytes → Printer Bool) : Printer Bool :=
  all d.sources fun source => step source (if d.into then pathInto d.target source else d.target)

/-- Says what goes where. -/
def sayGoes (verbose : Bool) (front : String) (source target : Bytes) : Printer Unit :=
  if verbose then say (ascii front ++ shellQuoted source ++ ascii " -> " ++ shellQuoted target ++ [10])
  else return

/-- Asks a question, and reads whether the answer is yes. -/
def confirm (question : Bytes) : Printer Bool := do
  flush
  let name := (← get).name
  let _ ← writeAll 2 (name ++ ascii ": " ++ question)
  let answer ← repeated (fun (line : Bytes) => do
    match ← perform (.read 0 1) with
    | .ok [b] => if b = 10 then return .inr line else return .inl (line ++ [b])
    | _ => return .inr line) []
  return answer.head? == some 121 || answer.head? == some 89

/-! ### Copies -/

def cpRows : List OptionRow :=
  [⟨some 'a', ["archive"], .nothing⟩, ⟨some 'b', [], .nothing⟩, ⟨some 'd', [], .nothing⟩,
   ⟨some 'f', ["force"], .nothing⟩, ⟨some 'i', ["interactive"], .nothing⟩, ⟨some 'H', [], .nothing⟩,
   ⟨some 'l', ["link"], .nothing⟩, ⟨some 'L', ["dereference"], .nothing⟩,
   ⟨some 'n', ["no-clobber"], .nothing⟩, ⟨some 'P', ["no-dereference"], .nothing⟩,
   ⟨some 'p', [], .nothing⟩, ⟨none, ["preserve"], .maybe⟩, ⟨some 'R', ["recursive"], .nothing⟩,
   ⟨some 'r', [], .nothing⟩, ⟨some 's', ["symbolic-link"], .nothing⟩,
   ⟨some 't', ["target-directory"], .value⟩, ⟨some 'T', ["no-target-directory"], .nothing⟩,
   ⟨some 'u', ["update"], .maybe⟩, ⟨some 'v', ["verbose"], .nothing⟩, ⟨some 'S', ["suffix"], .value⟩,
   ⟨some 'x', ["one-file-system"], .nothing⟩, ⟨none, ["backup"], .maybe⟩]

/-- What is added to the name of a file that is kept when another one takes its place, if it is kept. -/
def keptSuffix? (a : Arguments) : Option Bytes :=
  match a.value? "S" with
  | some suffix => some suffix
  | none => if a.has "b" || a.has "backup" then some [126] else none

/-- Keeps what a path leads to under another name. -/
def keepOld (suffix : Option Bytes) (path : Bytes) : Printer Bool := do
  match suffix with
  | none => return false
  | some suffix =>
    match ← serve (.rename path (trimSlashes path ++ suffix)) with
    | .ok _ => return true
    | .error _ => return false

/-- What `cp` was asked for. -/
structure CopyOptions where
  /-- Links are made in the place of copies: symbolic ones, or names of the same files. -/
  links : Option Bool
  suffix : Option Bytes
  recursive : Bool
  follows : Bool
  force : Bool
  asks : Bool
  keepsOld : Bool
  preserves : Bool
  verbose : Bool

def copyOptions (a : Arguments) : CopyOptions :=
  let recursive := a.has "r" || a.has "R" || a.has "a"
  { links := if a.has "s" then some true else if a.has "l" then some false else none
    suffix := keptSuffix? a
    recursive
    follows := a.has "L" || !(recursive || a.has "d" || a.has "P")
    force := a.has "f"
    asks := a.last? ["i", "n"] == some "i"
    keepsOld := a.last? ["i", "n"] == some "n"
    preserves := a.has "p" || a.has "a" || a.has "preserve"
    verbose := a.has "v" }

/-- Copies what one open file holds to another. -/
def copyBytes (source target : Bytes) (input output : Descriptor) : Printer Bool :=
  repeated (fun _ => do
    match ← perform (.read input blockSize) with
    | .error e =>
      complainOf (ascii "error reading " ++ shellQuoted source) e
      return .inr false
    | .ok [] => return .inr true
    | .ok block =>
      match ← writeAll output block with
      | .ok _ => return .inl ()
      | .error e =>
        complainOf (ascii "error writing " ++ shellQuoted target) e
        return .inr false) ()

/-- Opens the target of a copy. -/
def openCopy (o : CopyOptions) (target : Bytes) (present : Bool) (mode : Nat) :
    Printer (Except Errno Descriptor) := do
  if present then
    match ← perform (.openFile target { reads := false, writes := true, empties := true }) with
    | .ok d => return .ok d
    | .error e =>
      if o.force then
        match ← serve (.remove target) with
        | .ok _ => perform (.openFile target (.replacing mode))
        | .error _ => return .error e
      else return .error e
  else
    match ← perform (.openFile target (.replacing mode)) with
    | .error e => return .error (if e = .isDirectory then .notDirectory else e)
    | opened => return opened

/-- Copies a file that is no directory. -/
def copyFile (o : CopyOptions) (info : FileInfo) (source target : Bytes) (present : Bool) : Printer Bool := do
  match ← perform (.openFile source .reading) with
  | .error e =>
    complainOf (ascii "cannot open " ++ shellQuoted source ++ ascii " for reading") e
    return false
  | .ok d =>
    match ← openCopy o target present (info.mode % 0o1000) with
    | .error e =>
      closeOperand d
      complainOf (ascii "cannot create regular file " ++ shellQuoted target) e
      return false
    | .ok t =>
      let well ← copyBytes source target d t
      closeOperand d
      closeOperand t
      if o.preserves then
        let _ ← serve (.changeMode target info.mode)
      return well

/-- Makes a link in the place of a copy. -/
def linkCopy (o : CopyOptions) (symbolic : Bool) (source target : Bytes) (present : Bool) : Printer Bool := do
  if present && o.force then
    let _ ← serve (.remove target)
  let made : Except Errno Unit ←
    if symbolic then serve (.makeLink source target) else serve (.addName source target)
  match made with
  | .ok _ => return true
  | .error e =>
    if symbolic then complainOf (ascii "cannot create symbolic link " ++ shellQuoted target ++ ascii " to " ++
      shellQuoted source) e
    else complainOf (ascii "cannot create hard link " ++ shellQuoted target ++ ascii " to " ++
      shellQuoted source) e
    return false

/-- Copies a link as a link. -/
def copyLink (source target : Bytes) (present : Bool) : Printer Bool := do
  match ← serve (.readLink source) with
  | .error e =>
    complainOf (ascii "cannot read symbolic link " ++ shellQuoted source) e
    return false
  | .ok path =>
    if present then
      let _ ← serve (.remove target)
    match ← serve (.makeLink path target) with
    | .ok _ => return true
    | .error e =>
      complainOf (ascii "cannot create symbolic link " ++ shellQuoted target) e
      return false

/-- Why a source cannot take the place of what is there. -/
def clash? (source target : Bytes) (new old : FileInfo) : Option Bytes :=
  if new.node.isSome && new.node == old.node then
    some (shellQuoted source ++ ascii " and " ++ shellQuoted target ++ ascii " are the same file")
  else if new.kind = .directory && old.kind != .directory then
    some (ascii "cannot overwrite non-directory " ++ shellQuoted target ++ ascii " with directory " ++
      shellQuoted source)
  else if new.kind != .directory && old.kind = .directory then
    some (ascii "cannot overwrite directory " ++ shellQuoted target ++ ascii " with non-directory")
  else none

/-- Copies a file or a directory. The nodes are the directories that are being copied to; a directory is not
copied into itself. -/
def copy (o : CopyOptions) (top goal : Bytes) : Nat → List Nat → Bytes → Bytes → Printer Bool
  | 0, _, _, _ => return false
  | fuel + 1, made, source, target => do
    match ← serve (.inspect source o.follows) with
    | .error e =>
      complainOf (ascii "cannot stat " ++ shellQuoted source) e
      return false
    | .ok info =>
      if info.kind = .directory && !o.recursive then
        complain (ascii "-r not specified; omitting directory " ++ shellQuoted source)
        return false
      else
        match ← serve (.inspect target (info.kind != .link)) with
        | .error e =>
          if e != .noEntry && e != .notDirectory then
            complainOf (ascii "cannot stat " ++ shellQuoted target) e
            return false
          else
            sayGoes (o.verbose && info.kind != .directory) "" source target
            write fuel made info source target false
        | .ok old =>
          match clash? source target info old with
          | some why =>
            complain why
            return false
          | none =>
            if info.kind != .directory && o.keepsOld then return true
            else
              let goesOn ← if info.kind != .directory && o.asks
                then confirm (ascii "overwrite " ++ shellQuoted target ++ ascii "? ") else pure true
              if !goesOn then return false
              else
                let moved ← if info.kind = .directory then pure false else keepOld o.suffix target
                sayGoes (o.verbose && info.kind != .directory) "" source target
                write fuel made info source target (!moved)
where
  /-- Writes the copy, once it is clear that it may be written. -/
  write (fuel : Nat) (made : List Nat) (info : FileInfo) (source target : Bytes) (present : Bool) :
      Printer Bool := do
    match info.kind, o.links with
    | .directory, _ =>
      if info.node.any made.contains then
        complain (ascii "cannot copy a directory, " ++ shellQuoted top ++ ascii ", into itself, " ++
          shellQuoted goal)
        return false
      else
        let created ← if present then pure (.ok ()) else serve (.makeDirectory target (info.mode.lor 0o700))
        match created with
        | .error e =>
          complainOf (ascii "cannot create directory " ++ shellQuoted target) e
          return false
        | .ok _ =>
          if !present then sayGoes o.verbose "" source target
          let node := match ← serve (.inspect target true) with
            | .ok new => new.node.toList
            | .error _ => []
          let well ← match ← serve (.list source) with
            | .error e => do
              complainOf (ascii "cannot access " ++ shellQuoted source) e
              pure false
            | .ok names =>
              names.foldlM (fun well name => do
                let more ← copy o top goal fuel (node ++ made) (trimSlashes source ++ 47 :: name)
                  (trimSlashes target ++ 47 :: name)
                return well && more) true
          if !present && info.mode.lor 0o700 != info.mode then
            let _ ← serve (.changeMode target info.mode)
          return well
    | _, some symbolic => linkCopy o symbolic source target present
    | .link, none => copyLink source target present
    | .fifo, none =>
      if o.recursive then
        if present then
          let _ ← serve (.remove target)
        match ← serve (.makeFifo target (info.mode % 0o1000)) with
        | .ok _ => return true
        | .error e =>
          complainOf (ascii "cannot create fifo " ++ shellQuoted target) e
          return false
      else copyFile o info source target present
    | _, none => copyFile o info source target present

def cp : Utility := printing 1 fun args => do
  let a := Arguments.read cpRows args
  a.check 1
  let o := copyOptions a
  let d ← destination a
  let well ← d.each fun source target => copy o source target maxDepth [] source target
  return codeOf well

/-! ### Moves -/

def mvRows : List OptionRow :=
  [⟨some 'b', [], .nothing⟩, ⟨some 'f', ["force"], .nothing⟩, ⟨some 'i', ["interactive"], .nothing⟩,
   ⟨some 'n', ["no-clobber"], .nothing⟩, ⟨some 't', ["target-directory"], .value⟩,
   ⟨some 'T', ["no-target-directory"], .nothing⟩, ⟨some 'u', ["update"], .maybe⟩,
   ⟨some 'v', ["verbose"], .nothing⟩, ⟨some 'S', ["suffix"], .value⟩, ⟨none, ["backup"], .maybe⟩]

/-- What is said about a move that was refused. -/
def moveFault (source target : Bytes) (e : Errno) : Bytes :=
  if e = .invalid then
    ascii "cannot move " ++ shellQuoted source ++ ascii " to a subdirectory of itself, " ++ shellQuoted target
  else if [Errno.fileExists, .isDirectory, .notEmpty].contains e then
    ascii "cannot overwrite " ++ shellQuoted target ++ ascii ": " ++ e.libraryText.encode
  else
    ascii "cannot move " ++ shellQuoted source ++ ascii " to " ++ shellQuoted target ++ ascii ": " ++
      e.libraryText.encode

/-- Whether a file may take the place of another; nobody is asked if nobody could answer. -/
def mayReplace (a : Arguments) (target : Bytes) (old : FileInfo) : Printer Bool := do
  match a.last? ["f", "i", "n"] with
  | some "f" => return true
  | some "i" => confirm (ascii "overwrite " ++ shellQuoted target ++ ascii "? ")
  | some _ => return true
  | none =>
    if old.allowed / 2 % 2 = 0 && old.kind != .link && (← perform (.isTerminal 0)) then
      confirm (ascii "replace " ++ shellQuoted target ++ ascii ", overriding mode " ++ modeShown old.mode ++
        ascii "? ")
    else return true

/-- Moves one file. -/
def move (a : Arguments) (source target : Bytes) : Printer Bool := do
  match ← serve (.inspect source false) with
  | .error e =>
    complainOf (ascii "cannot stat " ++ shellQuoted source) e
    return false
  | .ok info =>
    let clash ← do
      match ← serve (.inspect target false) with
      | .error _ => pure none
      | .ok old =>
        match clash? source target info old with
        | some why => pure (some (some why))
        | none =>
          if a.last? ["f", "i", "n"] == some "n" then
            pure (some (some (ascii "not replacing " ++ shellQuoted target)))
          else if ← mayReplace a target old then pure none
          else pure (some none)
    match clash with
    | some (some why) =>
      complain why
      return false
    | some none => return false
    | none =>
      let _ ← keepOld (keptSuffix? a) target
      match ← serve (.rename source target) with
      | .ok _ =>
        sayGoes (a.has "v") "renamed " source target
        return true
      | .error e =>
        complain (moveFault source target e)
        return false

def mv : Utility := printing 1 fun args => do
  let a := Arguments.read mvRows args
  a.check 1
  let d ← destination a
  let well ← d.each (move a)
  return codeOf well

/-! ### Links -/

def lnRows : List OptionRow :=
  [⟨some 'b', [], .nothing⟩, ⟨some 'd', ["directory"], .nothing⟩, ⟨some 'F', [], .nothing⟩,
   ⟨some 'f', ["force"], .nothing⟩, ⟨some 'i', ["interactive"], .nothing⟩, ⟨some 'L', ["logical"], .nothing⟩,
   ⟨some 'n', ["no-dereference"], .nothing⟩, ⟨some 'P', ["physical"], .nothing⟩,
   ⟨some 'r', ["relative"], .nothing⟩, ⟨some 's', ["symbolic"], .nothing⟩,
   ⟨some 't', ["target-directory"], .value⟩, ⟨some 'T', ["no-target-directory"], .nothing⟩,
   ⟨some 'v', ["verbose"], .nothing⟩, ⟨some 'S', ["suffix"], .value⟩, ⟨none, ["backup"], .maybe⟩]

/-- What is said about a link that was refused. -/
def linkFault (symbolic : Bool) (source path : Bytes) (e : Errno) : Bytes :=
  (if symbolic then
    if e = .nameTooLong || source.isEmpty then
      ascii "failed to create symbolic link " ++ shellQuoted path ++ ascii " -> " ++ shellQuoted source
    else ascii "failed to create symbolic link " ++ shellQuoted path
  else if e = .fileExists then ascii "failed to create hard link " ++ shellQuoted path
  else ascii "failed to create hard link " ++ shellQuoted path ++ ascii " => " ++ shellQuoted source) ++
    ascii ": " ++ e.libraryText.encode

/-- Takes away what is in the place of a link, if that is asked for; the answer says whether to go on. -/
def clearPlace (a : Arguments) (symbolic : Bool) (source path : Bytes) : Printer Bool := do
  match ← serve (.inspect path false) with
  | .error _ => return true
  | .ok old =>
    if old.kind = .directory then
      complain (fileName path ++ ascii ": cannot overwrite directory")
      return false
    else
      let same ← do
        match ← serve (.inspect source (symbolic || a.has "L")) with
        | .ok new => pure (new.node == old.node && (old.names = 1 || trimSlashes source = trimSlashes path))
        | .error _ => pure false
      if same then
        complain (shellQuoted source ++ ascii " and " ++ shellQuoted path ++ ascii " are the same file")
        return false
      else
        let goesOn ←
          if a.has "i" then confirm (ascii "replace " ++ shellQuoted path ++ ascii "? ") else pure true
        if goesOn then
          let kept ← keepOld (keptSuffix? a) path
          if !kept then
            let _ ← serve (.remove path)
        return goesOn

/-- A path as it is seen from the directory of another one. -/
def relativeTo (target path : Bytes) : Printer Bytes := do
  let directory := ((trimSlashes path).reverse.dropWhile (· != 47)).reverse
  let start ← realPath .nothing (if directory.isEmpty then [46] else directory)
  let goal ← realPath .nothing target
  match start, goal with
  | .ok start, .ok goal => return seenFrom start goal
  | _, _ => return target

/-- Makes one link. -/
def linkFile (a : Arguments) (source path : Bytes) : Printer Bool := do
  let symbolic := a.has "s"
  let fault ← do
    if symbolic then pure none
    else
      match ← serve (.inspect source (a.has "L")) with
      | .error e =>
        pure (some (ascii "failed to access " ++ shellQuoted source ++ ascii ": " ++ e.libraryText.encode))
      | .ok info =>
        pure (if info.kind = .directory then
            some (fileName source ++ ascii ": hard link not allowed for directory")
          else none)
  match fault with
  | some why =>
    complain why
    return false
  | none =>
    let clears := a.has "f" || a.has "i" || (keptSuffix? a).isSome
    let clear ← if clears then clearPlace a symbolic source path else pure true
    if !clear then return false
    else
      let made : Except Errno Unit ←
        if symbolic then serve (.makeLink (← if a.has "r" then relativeTo source path else pure source) path)
        else serve (.addName source path)
      match made with
      | .ok _ =>
        if a.has "v" then
          say (shellQuoted path ++ ascii (if symbolic then " -> " else " => ") ++ shellQuoted source ++ [10])
        return true
      | .error e =>
        complain (linkFault symbolic source path e)
        return false

/-- The operands of `ln`: a single one gets a link of its own name, and a link to a directory may be a file.
-/
def linkDestination (a : Arguments) : Printer Destination := do
  match a.operands, a.value? "t" with
  | [source], none =>
    if a.has "T" then misuse 1 (ascii "missing destination file operand after " ++ shellQuoted source)
    else return ⟨[source], [46], true⟩
  | [source, target], none =>
    let isLink := match ← serve (.inspect target false) with
      | .ok info => info.kind == .link
      | .error _ => false
    if a.has "n" && isLink then return ⟨[source], target, false⟩ else destination a
  | _, _ => destination a

def ln : Utility := printing 1 fun args => do
  let a := Arguments.read lnRows args
  a.check 1
  let d ← linkDestination a
  let well ← d.each (linkFile a)
  return codeOf well

/-- Ends the program unless it has so many operands. -/
def needOperands (a : Arguments) (count : Nat) : Printer Unit :=
  match a.operands[count]? with
  | some extra => misuse 1 (ascii "extra operand " ++ quoted extra)
  | none =>
    if a.operands.length = count then return
    else
      match a.operands.getLast? with
      | none => misuse 1 (ascii "missing operand")
      | some last => misuse 1 (ascii "missing operand after " ++ quoted last)

def link : Utility := printing 1 fun args => do
  let a := Arguments.readInFront [] args
  a.check 1
  needOperands a 2
  match a.operands with
  | [source, path] =>
    match ← serve (.addName source path) with
    | .ok _ => return 0
    | .error e =>
      die 1 (ascii "cannot create link " ++ shellQuoted path ++ ascii " to " ++ shellQuoted source ++
        ascii ": " ++
        e.libraryText.encode)
  | _ => return 1

def unlink : Utility := printing 1 fun args => do
  let a := Arguments.readInFront [] args
  a.check 1
  needOperands a 1
  let path := a.operands.headD []
  match ← serve (.remove path) with
  | .ok _ => return 0
  | .error e => die 1 (ascii "cannot unlink " ++ shellQuoted path ++ ascii ": " ++ e.libraryText.encode)

/-! ### Removal -/

def rmRows : List OptionRow :=
  [⟨some 'd', ["dir"], .nothing⟩, ⟨some 'f', ["force"], .nothing⟩, ⟨some 'i', [], .nothing⟩,
   ⟨some 'I', [], .nothing⟩, ⟨none, ["interactive"], .maybe⟩, ⟨none, ["one-file-system"], .nothing⟩,
   ⟨none, ["preserve-root"], .maybe⟩, ⟨some 'r', ["recursive"], .nothing⟩, ⟨some 'R', [], .nothing⟩,
   ⟨some 'v', ["verbose"], .nothing⟩]

/-- What `rm` was asked for. -/
structure RemoveOptions where
  recursive : Bool
  emptyDirectories : Bool
  force : Bool
  asks : Bool
  verbose : Bool
  /-- Somebody could answer a question. -/
  answered : Bool

/-- What a file is called in a question. -/
def kindName (info : FileInfo) : Bytes :=
  ascii (match info.kind with
    | .file => if info.size = 0 then "regular empty file" else "regular file"
    | .directory => "directory"
    | .link => "symbolic link"
    | .fifo => "fifo"
    | .device => "character special file")

/-- Whether a file may be removed. -/
def mayRemove (o : RemoveOptions) (verb : String) (info : FileInfo) (path : Bytes) : Printer Bool := do
  let isProtected := info.kind != .link && info.allowed / 2 % 2 = 0
  if o.asks || (!o.force && o.answered && isProtected) then
    confirm (ascii verb ++ ascii (if isProtected then " write-protected " else " ") ++ kindName info ++ 32 ::
      shellQuoted path ++ ascii "? ")
  else return true

/-- Says that a file could not be removed. -/
def cannotRemove (path : Bytes) (e : Errno) : Printer Bool := do
  complainOf (ascii "cannot remove " ++ shellQuoted path) e
  return false

/-- Removes a file, or a directory and what is in it. -/
def removeFile (o : RemoveOptions) : Nat → Bool → Bytes → Printer Bool
  | 0, _, _ => return false
  | fuel + 1, given, path => do
    match ← serve (.inspect path false) with
    | .error e => if o.force && (e = .noEntry || e = .notDirectory) then return true else cannotRemove path e
    | .ok info =>
      if info.kind != .directory then
        if !(← mayRemove o "remove" info path) then return true
        else
          match ← serve (.remove path) with
          | .ok _ =>
            if o.verbose then say (ascii "removed " ++ shellQuoted path ++ [10])
            return true
          | .error e => cannotRemove path e
      else if !o.recursive && !o.emptyDirectories then cannotRemove path .isDirectory
      else
        let name := lastName path
        if given && (name = [46] || name = [46, 46]) then
          complain (ascii "refusing to remove '.' or '..' directory: skipping " ++ shellQuoted path)
          return false
        else
          let names := match ← serve (.list path) with
            | .ok names => names
            | .error _ => []
          if !o.recursive && !names.isEmpty then cannotRemove path .notEmpty
          else if !names.isEmpty && !(← mayRemove o "descend into" info path) then return true
          else
            let well ← names.foldlM (fun well name => do
              let more ← removeFile o fuel false (joinSlash path name)
              return well && more) true
            if !well then return false
            else if !(← mayRemove o "remove" info path) then return true
            else
              match ← serve (.removeDirectory path) with
              | .ok _ =>
                if o.verbose then say (ascii "removed directory " ++ shellQuoted path ++ [10])
                return true
              | .error e => cannotRemove path e
where
  /-- The path of an entry of a directory. -/
  joinSlash (path name : Bytes) : Bytes :=
    if path.getLast? = some 47 then path ++ name else path ++ 47 :: name

def rm : Utility := printing 1 fun args => do
  let a := Arguments.read rmRows args
  a.check 1
  let force := a.last? ["f", "i", "I"] == some "f"
  let words := ["never", "no", "none", "once", "always", "yes"]
  if let some word := a.value? "interactive" then
    if !words.any fun w => word.isPrefixOf (ascii w) then
      complain (ascii "invalid argument " ++ quoted word ++ ascii " for '--interactive'")
      warn (ascii ("Valid arguments are:\n  - 'never', 'no', 'none'\n  - 'once'\n  - 'always', 'yes'\n"))
      pointToHelp
      quit 1
  if a.operands.isEmpty && !force then misuse 1 (ascii "missing operand")
  let o : RemoveOptions :=
    { recursive := a.has "r" || a.has "R"
      emptyDirectories := a.has "d"
      force
      asks := a.last? ["f", "i", "I"] == some "i"
      verbose := a.has "v"
      answered := ← perform (.isTerminal 0) }
  let well ← all a.operands fun path => do
    if o.recursive && (path = ascii "/" || path = ascii "//") then
      complain (ascii "it is dangerous to operate recursively on '/'")
      complain (ascii "use --no-preserve-root to override this failsafe")
      return false
    else removeFile o maxDepth true path
  return codeOf well

end JobShell.Utility
