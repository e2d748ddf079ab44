import JobShell.Utility.Files

/-! # Programs about names

`basename` and `dirname` take a path apart, `pwd` says which directory the process is in, `readlink` and
`realpath` follow links. -/

namespace JobShell.Utility

open Printer

/-! ### Parts of paths -/

/-- The last name on a path. -/
def lastName (path : Bytes) : Bytes :=
  let trimmed := trimSlashes path
  if trimmed = [47] then trimmed else (trimmed.reverse.takeWhile (· != 47)).reverse

/-- The path of the directory that the last name on a path is in. -/
def directoryName (path : Bytes) : Bytes :=
  let trimmed := trimSlashes path
  let front := trimmed.reverse.dropWhile (· != 47)
  if front.isEmpty then if trimmed.head? = some 47 then [47] else [46]
  else
    let kept := (front.dropWhile (· == 47)).reverse
    if kept.isEmpty then [47] else kept

/-- A name without a suffix, unless that is all of it. -/
def withoutSuffix (suffix name : Bytes) : Bytes :=
  if suffix.length < name.length && suffix.isSuffixOf name then name.take (name.length - suffix.length)
  else name

def basenameRows : List OptionRow :=
  [⟨some 'a', ["multiple"], .nothing⟩, ⟨some 's', ["suffix"], .value⟩, ⟨some 'z', ["zero"], .nothing⟩]

def basename : Utility := printing 1 fun args => do
  let a := Arguments.readInFront basenameRows args
  a.check 1
  let ending : UInt8 := if a.has "z" then 0 else 10
  let write (suffix name : Bytes) : Printer Unit := say (withoutSuffix suffix (lastName name) ++ [ending])
  match a.operands with
  | [] => misuse 1 (ascii "missing operand")
  | operands =>
    if a.has "a" || a.has "s" then
      operands.forM (write ((a.value? "s").getD []))
      return 0
    else
      match operands with
      | _ :: _ :: extra :: _ => misuse 1 (ascii "extra operand " ++ quoted extra)
      | name :: rest =>
        write (rest.headD []) name
        return 0
      | [] => return 1

def dirname : Utility := printing 1 fun args => do
  let a := Arguments.readInFront [⟨some 'z', ["zero"], .nothing⟩] args
  a.check 1
  needOperand a "operand"
  a.operands.forM fun path => say (directoryName path ++ [if a.has "z" then 0 else 10])
  return 0

/-! ### Where files are -/

/-- Whether a path is the path of the directory of the process, without dots in it. -/
def leadsHere (path : Bytes) : Printer Bool := do
  let isPlain := path.head? == some 47 &&
    !(path.splitOnP (· == 47)).any fun name => name == [46] || name == [46, 46]
  match ← serve (.inspect path true), ← serve (.inspect [46] true) with
  | .ok there, .ok here => return isPlain && there.node == here.node
  | _, _ => return false

def pwdRows : List OptionRow := [⟨some 'L', ["logical"], .nothing⟩, ⟨some 'P', ["physical"], .nothing⟩]

def pwd : Utility := printing 1 fun args => do
  let a := Arguments.read pwdRows args
  a.check 1
  if !a.operands.isEmpty then complain (ascii "ignoring non-option arguments")
  let known := ((← perform .environment).find? fun v => v.1 == ascii "PWD").map (·.2)
  match known with
  | some path =>
    if a.last? ["L", "P"] == some "L" && (← leadsHere path) then
      say (path ++ [10])
      return 0
    else here
  | none => here
where
  /-- Writes the path of the directory of the process. -/
  here : Printer Int := do
    match ← serve .workingDirectory with
    | .ok path =>
      say (path ++ [10])
      return 0
    | .error e =>
      die 1 (ascii "couldn't find directory entry in '..' with matching i-node: " ++ e.libraryText.encode)

/-- What has to be there of a path. -/
inductive Needed
  | all
  | directories
  | nothing
deriving DecidableEq, Repr

/-- The path of a file without links and dots, as it is built name by name. -/
def resolve (needed : Needed) : Nat → Bytes → List Bytes → Printer (Except Errno Bytes)
  | 0, _, _ => return .error .tooManyLinks
  | _, done, [] => return .ok (if done.isEmpty then [47] else done)
  | fuel + 1, done, name :: rest => do
    if name.isEmpty || name = [46] then resolve needed fuel done rest
    else if name = [46, 46] then
      let up := (done.reverse.dropWhile (· != 47)).drop 1 |>.reverse
      resolve needed fuel up rest
    else
      let path := done ++ 47 :: name
      match ← serve (.inspect path false) with
      | .error e =>
        let isLast := rest.all fun name => name.isEmpty
        if needed = .nothing || (needed = .directories && isLast && e = .noEntry) then
          resolve needed fuel path rest
        else return .error e
      | .ok info =>
        match info.kind with
        | .link =>
          match ← serve (.readLink path) with
          | .error e => return .error e
          | .ok target =>
            let start := if target.head? = some 47 then [] else done
            resolve needed fuel start (target.splitOnP (· == 47) ++ rest)
        | .directory => resolve needed fuel path rest
        | _ =>
          if rest.isEmpty || needed = .nothing then resolve needed fuel path rest
          else return .error .notDirectory

/-- The path of a file without links and dots. -/
def realPath (needed : Needed) (path : Bytes) : Printer (Except Errno Bytes) := do
  if path.isEmpty then return .error .noEntry
  else
    let here ← if path.head? = some 47 then pure (.ok []) else serve .workingDirectory
    match here with
    | .error e => return .error e
    | .ok here => resolve needed 1000 (if here = [47] then [] else here) (path.splitOnP (· == 47))

/-- A path without links and dots as it is seen from a directory, which is such a path too. -/
def seenFrom (directory path : Bytes) : Bytes :=
  let names (p : Bytes) : List Bytes := (p.splitOnP (· == 47)).filter (!·.isEmpty)
  let common := (((names directory).zip (names path)).takeWhile fun p => p.1 == p.2).length
  let up := List.replicate ((names directory).length - common) ([46, 46] : Bytes)
  let shown := up ++ (names path).drop common
  if shown.isEmpty then [46] else [47].intercalate shown

/-- Whether a path without links and dots is that of a directory, or of something below it. -/
def isBelow (directory path : Bytes) : Bool :=
  path == directory || directory == [47] || (directory ++ [47]).isPrefixOf path

def readlinkRows : List OptionRow :=
  [⟨some 'e', ["canonicalize-existing"], .nothing⟩, ⟨some 'f', ["canonicalize"], .nothing⟩,
   ⟨some 'm', ["canonicalize-missing"], .nothing⟩, ⟨some 'n', ["no-newline"], .nothing⟩,
   ⟨some 'q', ["quiet"], .nothing⟩, ⟨some 's', ["silent"], .nothing⟩, ⟨some 'v', ["verbose"], .nothing⟩,
   ⟨some 'z', ["zero"], .nothing⟩]

def readlink : Utility := printing 1 fun args => do
  let a := Arguments.read readlinkRows args
  a.check 1
  needOperand a "operand"
  let several := a.operands.length > 1
  if a.has "n" && several then complain (ascii "ignoring --no-newline with multiple arguments")
  let ending := if a.has "n" && !several then [] else if a.has "z" then [0] else [10]
  let well ← all a.operands fun path => do
    let found ← match a.last? ["e", "f", "m"] with
      | some "e" => realPath .all path
      | some "f" => realPath .directories path
      | some _ => realPath .nothing path
      | none => serve (.readLink path)
    match found with
    | .ok found =>
      say (found ++ ending)
      return true
    | .error e =>
      if a.last? ["q", "s", "v"] == some "v" then complainOf (fileName path) e
      return false
  return codeOf well

def realpathRows : List OptionRow :=
  [⟨some 'e', ["canonicalize-existing"], .nothing⟩, ⟨some 'm', ["canonicalize-missing"], .nothing⟩,
   ⟨some 'L', ["logical"], .nothing⟩, ⟨some 'P', ["physical"], .nothing⟩, ⟨some 'q', ["quiet"], .nothing⟩,
   ⟨some 's', ["strip", "no-symlinks"], .nothing⟩, ⟨some 'z', ["zero"], .nothing⟩,
   ⟨none, ["relative-to"], .value⟩, ⟨none, ["relative-base"], .value⟩]

def realpath : Utility := printing 1 fun args => do
  let a := Arguments.read realpathRows args
  a.check 1
  needOperand a "operand"
  let needed := match a.last? ["e", "m"] with
    | some "e" => Needed.all
    | some _ => .nothing
    | none => .directories
  let directory (key : String) : Printer (Option Bytes) :=
    match a.value? key with
    | none => return none
    | some path => do
      match ← realPath needed path with
      | .error e => die 1 (fileName path ++ ascii ": " ++ e.libraryText.encode)
      | .ok found =>
        if needed = .all then
          if let .ok info ← serve (.inspect found true) then
            if info.kind != .directory then die 1 (fileName path ++ ascii ": Not a directory")
        return some found
  let start ← directory "relative-to"
  let base ← directory "relative-base"
  -- A start that is not below the base does not count.
  let start := match start, base with
    | some start, some base => if isBelow base start then some start else none
    | start, base => start.or base
  let base := if start.isNone then none else base
  let well ← all a.operands fun path => do
    match ← realPath needed path with
    | .ok found =>
      let shown := match start with
        | some start => if base.all fun base => isBelow base found then seenFrom start found else found
        | none => found
      say (shown ++ [if a.has "z" then 0 else 10])
      return true
    | .error e =>
      if !a.has "q" then complainOf (fileName path) e
      return false
  return codeOf well

end JobShell.Utility
