import JobShell.Script.Builtin

/-! # Looking for commands

A command is a function, a builtin, or a program along the search path. A script remembers where it has found
a program, and asks the kernel again only for the programs in the directories from there on. -/

namespace JobShell.Script

open Utility (ascii digits)

/-- What the name of a command means. -/
inductive Meaning
  | function (body : Command)
  | builtin
  | program

/-- What the name of a command means; functions can be left out of account. -/
def meaningOf (s : Scope) (functions : Bool) (name : Bytes) : Meaning :=
  if name.contains 47 then .program
  else
    match functions, s.functions.find? fun f => f.1 == name with
    | true, some (_, body) => .function body
    | _, _ => if isBuiltin name then .builtin else .program

/-! ### Programs -/

/-- The directories with the programs that every machine has. -/
def standardPath : List Bytes :=
  ["/usr/local/sbin", "/usr/local/bin", "/usr/sbin", "/usr/bin", "/sbin", "/bin"].map ascii

/-- The directories that a program is looked for in. -/
def directoriesFor (standard : Bool) : Run (List Bytes) := do
  let s ← get
  return if standard then standardPath else s.searchPath

/-- The path of a name in a directory. -/
def pathIn (directory name : Bytes) : Bytes :=
  if directory.isEmpty then name else directory ++ 47 :: name

/-- Whether an error says that there is no such file. -/
def isMissing (e : Errno) : Bool :=
  e == .noEntry || e == .notDirectory

/-- Why there is no program. -/
def missingText (e : Errno) : Bytes :=
  if isMissing e then ascii "not found" else e.libraryText.encode

/-- The number of the first directory that has a program, or why there is none. -/
def locateIn (name : Bytes) : Nat → Errno → List Bytes → Run (Except Errno Nat)
  | _, e, [] => return .error e
  | n, e, directory :: rest => do
    match ← Run.serve (.inspect (pathIn directory name) true) with
    | .error why => locateIn name (n + 1) (if isMissing why then e else why) rest
    | .ok info =>
      if info.kind = .file && info.allowed.testBit 0 then return .ok n
      else locateIn name (n + 1) .accessDenied rest

/-- The number of the directory that has a program. It is remembered, unless a standard program is meant. -/
def locate (standard : Bool) (name : Bytes) : Run (Except Errno Nat) := do
  match standard, (← get).located.find? fun l => l.1 == name with
  | false, some (_, n) => return .ok n
  | _, _ =>
    let found ← locateIn name 0 .noEntry (← directoriesFor standard)
    if let .ok n := found then
      if !standard then modify fun s => { s with located := s.located ++ [(name, n)] }
    return found

/-- Becomes the program at the first of several paths that has one; the answer is why that failed. -/
def becomeFirst (argv : List Bytes) : Errno → List Bytes → Run Errno
  | e, [] => return e
  | e, path :: rest => do
    let why ← Run.perform (.executeFile path argv)
    let why ← do
      if why = .notExecutable then
        let shell := ascii "/bin/sh"
        Run.perform (.executeFile shell (shell :: path :: argv.tail))
      else pure why
    becomeFirst argv (if isMissing why then e else why) rest

/-- Becomes a program, which is looked for from a directory on. If that fails, the script ends. -/
def become (standard : Bool) (first : Nat) (argv : List Bytes) : Run Unit := do
  let name := argv.headD []
  let directories ← directoriesFor standard
  let paths := if name.contains 47 then [name] else (directories.drop first).map (pathIn · name)
  let s ← get
  Run.serve (.setEnvironment s.environment)
  let e ← becomeFirst argv .noEntry paths
  Run.warn (name ++ ascii ": " ++ missingText e)
  let isUnknown := isMissing e || e == .tooManyLinks || e == .nameTooLong
  modify fun s => { s with status := if isUnknown then 127 else 126 }
  throw .ended

/-! ### Telling what a command is -/

/-- The path of a program, and whether it was remembered. -/
def pathOf (standard : Bool) (name : Bytes) : Run (Option (Bytes × Bool)) := do
  if name.contains 47 then
    match ← Run.serve (.inspect name true) with
    | .ok _ => return some (name, false)
    | .error _ => return none
  else
    let known := !standard && (← get).located.any fun l => l.1 == name
    match ← locate standard name with
    | .ok n => return some (pathIn (((← directoriesFor standard)[n]?).getD []) name, known)
    | .error _ => return none

/-- Tells what a command is, in words if it is to be `verbose`; the answer is a status. -/
def describe (standard verbose : Bool) (name : Bytes) : Run Int := do
  let say (words : Bytes) (short : Bytes) : Run Int := do
    Run.write ((if verbose then name ++ words else short) ++ [10])
    return 0
  if keywords.any fun k => ascii k == name then say (ascii " is a shell keyword") name
  else
    match meaningOf (← get) (!standard) name with
    | .function _ => say (ascii " is a shell function") name
    | .builtin =>
      let kind := if isSpecialBuiltin name then " is a special shell builtin" else " is a shell builtin"
      say (ascii kind) name
    | .program =>
      match ← pathOf standard name with
      | some (path, known) => say (ascii (if known then " is a tracked alias for " else " is ") ++ path) path
      | none =>
        if verbose then Run.write (name ++ ascii ": not found\n")
        return 127

def typeBuiltin : Builtin := fun argv => do
  let statuses ← argv.tail.mapM (describe false true)
  return if statuses.all (· == 0) then 0 else 127

/-- The builtin `command` where it only tells what a command is. -/
def commandBuiltin : Builtin := fun argv => do
  let (given, args) ← optionsOf "pvV" argv
  match args.head? with
  | some name =>
    if isGiven given 'V' then describe (isGiven given 'p') true name
    else if isGiven given 'v' then describe (isGiven given 'p') false name
    else return 0
  | none => return 0

/-- The group that a program is remembered in. -/
def programGroup (name : Bytes) : Nat :=
  (name.foldl (fun n b => n + b.toNat) ((name.headD 0).toNat * 16)) % 31

def hashBuiltin : Builtin := fun argv => do
  let (given, args) ← optionsOf "r" argv
  if isGiven given 'r' then
    modify fun s => { s with located := [] }
    return 0
  else if args.isEmpty then
    let s ← get
    (List.range 31).forM fun group =>
      (s.located.filter fun l => programGroup l.1 = group).forM fun (name, n) =>
        Run.write (pathIn ((s.searchPath[n]?).getD []) name ++ [10])
    return 0
  else
    let found ← args.mapM fun name => do
      modify fun s => { s with located := s.located.filter (·.1 != name) }
      match meaningOf (← get) true name with
      | .program =>
        if name.contains 47 then return true
        else
          match ← locate false name with
          | .ok _ => return true
          | .error e =>
            Run.warn (name ++ ascii ": " ++ missingText e)
            return false
      | _ => return true
    return if found.all id then 0 else 1

end JobShell.Script
