import JobShell.Script.Evaluate

/-! # The program `sh`

The program runs the script of a file, of an argument, or of its standard input. -/

namespace JobShell.Script

open Utility (ascii digits charOf)

/-- What the arguments of `sh` ask for. -/
structure Request where
  /-- The script is an argument. -/
  inArgument : Bool := false
  operands : List Bytes := []

/-- Reads the letters of an argument that sets options; the answer says whether the script is an argument, and
what is left of the arguments behind. -/
def requestLetters (on : Bool) : Bytes → List Bytes → Run (Bool × List Bytes)
  | [], rest => return (false, rest)
  | b :: letters, rest => do
    if b = 99 then
      let (_, rest) ← requestLetters on letters rest
      return (true, rest)
    else if b = 108 then requestLetters on letters rest
    else
      let rest ← setLetters on [b] rest
      requestLetters on letters rest

/-- Reads the arguments of `sh`. -/
def readRequest : Nat → Request → List Bytes → Run Request
  | 0, q, args => return { q with operands := args }
  | fuel + 1, q, args => do
    match args with
    | (sign :: letters) :: rest =>
      if sign = 45 && (letters.isEmpty || letters = [45]) then return { q with operands := rest }
      else if sign = 45 || sign = 43 then
        let (inArgument, rest) ← requestLetters (sign = 45) letters rest
        readRequest fuel { q with inArgument := q.inArgument || inArgument } rest
      else return { q with operands := args }
    | _ => return { q with operands := args }

/-- How deep commands can be in one another. -/
def maxDepth : Nat := 1000000

/-- Gives the script its name and its arguments. -/
def nameScript (args : List Bytes) : Run Unit :=
  match args with
  | name :: args => modify fun s => { s with name, args }
  | [] => return

/-- Runs what is read from a descriptor. -/
def runDescriptor (d : Descriptor) : Run Unit := do
  let _ ← runLines (fun _ c => evaluate maxDepth {} c) (some d) { rest := [], final := false }

/-- Does what the arguments of `sh` ask for. -/
def runRequest (argv : List Bytes) : Run Unit := do
  let q ← readRequest (argv.length + 1) {} argv.tail
  match q.inArgument, q.operands with
  | true, [] => Run.fail (ascii "-c requires an argument")
  | true, script :: args =>
    nameScript args
    let readsMore := (← get).has 's'
    let _ ← runText maxDepth { last := !readsMore } script
    if readsMore then runDescriptor 0
  | false, [] =>
    setOption true 's'
    runDescriptor 0
  | false, path :: args =>
    if (← get).has 's' then
      modify fun s => { s with args := path :: args }
      runDescriptor 0
    else
      let d ← openSource path
      nameScript (path :: args)
      modify fun s => { s with source := some d }
      runDescriptor d

/-- Whether two paths lead to the same file. -/
def areSame (a b : Bytes) : Prog Bool := do
  let x ← Prog.perform (.service (.inspect a true))
  let y ← Prog.perform (.service (.inspect b true))
  match x, y with
  | .ok x, .ok y => return x.node.isSome && x.node = y.node
  | _, _ => return false

/-- The directory where the script starts, as the environment knows it if it is right about it. -/
def startDirectory (environment : List (Bytes × Bytes)) : Prog Bytes := do
  let given := ((environment.find? fun v => v.1 == ascii "PWD").map (·.2)).getD []
  if given.head? = some 47 && (← areSame given [46]) then return given
  else
    match ← Prog.perform (.service .workingDirectory) with
    | .ok path => return path
    | .error _ => return []

/-- The variables that a script has before it sets any, with those of the environment among them. -/
def firstVariables (environment : List (Bytes × Bytes)) (parent : Pid) (directory : Bytes) : List Variable :=
  let own (name : String) (value : Bytes) : Variable := { name := ascii name, value := some value }
  let usual : List Variable :=
    [own "PATH" ([58].intercalate standardPath), own "PS1" (ascii "$ "), own "PS2" (ascii "> "),
     own "PS4" (ascii "+ ")]
  let given := (environment.filter fun v => isName v.1).map fun v =>
    { name := v.1, value := some v.2, exported := true : Variable }
  let last : List Variable :=
    [own "IFS" usualSeparators, own "OPTIND" [49], own "PPID" (Text.ofInt parent).encode,
     { own "PWD" directory with exported := true }]
  let scope : Scope := { name := [], args := [], pid := 0, parent }
  ((usual ++ given ++ last).foldl Scope.putVariable scope).bindings

/-- What is around the commands of a script at its beginning. -/
def firstScope (name : Bytes) : Prog Scope := do
  let pid ← Prog.perform .ownPid
  let parent ← Prog.perform (.service .parent)
  let environment ← Prog.perform .environment
  let directory ← startDirectory environment
  return { name, args := [], pid, parent, bindings := firstVariables environment parent directory }

end JobShell.Script

namespace JobShell.Utility

/-- The program `sh`. -/
def sh : Utility := fun argv => do
  let scope ← Script.firstScope (argv.headD [])
  (Script.conclude Script.maxDepth (Script.runRequest argv) scope).never

end JobShell.Utility
