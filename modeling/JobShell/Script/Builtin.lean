import JobShell.Script.Children
import JobShell.Script.Printing
import JobShell.Script.Test
import JobShell.Utility.Mode

/-! # Builtins

The commands that are run in the process of the script, as far as they run no other commands: they change what
is around the commands, or ask about it. -/

namespace JobShell.Script

open Utility (ascii digits charOf byte before)

/-- A builtin by its arguments, its own name first; it answers a status. -/
abbrev Builtin := List Bytes → Run Int

/-! ### Arguments -/

/-- Reads the letters of one argument; the last of them may take a value from the arguments behind. -/
def optionLetters (spec : List Char) : Bytes → List Bytes → Run (List (Char × Bytes) × List Bytes)
  | [], rest => return ([], rest)
  | b :: letters, rest => do
    let c := charOf b
    match spec.dropWhile (· != c) with
    | _ :: ':' :: _ =>
      if !letters.isEmpty then return ([(c, letters)], rest)
      else
        match rest with
        | value :: rest => return ([(c, value)], rest)
        | [] => Run.fail (ascii "No arg for -" ++ [b] ++ ascii " option")
    | _ :: _ =>
      let (more, rest) ← optionLetters spec letters rest
      return ((c, []) :: more, rest)
    | [] => Run.fail (ascii "Illegal option -" ++ [b])

/-- Reads the options of a builtin; a colon behind a letter says that it takes a value. -/
def readOptions (spec : String) : Nat → List Bytes → Run (List (Char × Bytes) × List Bytes)
  | 0, args => return ([], args)
  | fuel + 1, args => do
    match args with
    | (45 :: b :: letters) :: rest =>
      if b = 45 && letters.isEmpty then return ([], rest)
      else
        let (given, rest) ← optionLetters (spec.toList.filter (· != ' ')) (b :: letters) rest
        let (more, rest) ← readOptions spec fuel rest
        return (given ++ more, rest)
    | _ => return ([], args)

/-- The options and the operands of a builtin. -/
def optionsOf (spec : String) (argv : List Bytes) : Run (List (Char × Bytes) × List Bytes) :=
  readOptions spec (argv.length + 1) argv.tail

/-- Whether an option was given. -/
def isGiven (given : List (Char × Bytes)) (c : Char) : Bool :=
  given.any (·.1 == c)

/-- The largest number that an argument can be. -/
def maxNumber : Nat := 2147483647

/-- The number that an argument is. -/
def numberOf (text : Bytes) : Run Nat :=
  let inside := ((Utility.trimStart text).reverse.dropWhile Utility.isSpace).reverse
  match Utility.readNat? (if inside.head? = some 43 then inside.tail else inside) with
  | some n => if n ≤ maxNumber then return n else Run.fail (ascii "Illegal number: " ++ text)
  | none => Run.fail (ascii "Illegal number: " ++ text)

/-! ### Directories -/

/-- A path without dots, seen from a directory. -/
def normalized (here path : Bytes) : Bytes :=
  let start := if path.head? = some 47 then [] else here.splitOnP (· == 47)
  let names := (start ++ path.splitOnP (· == 47)).foldl (fun built name =>
    if name.isEmpty || name = [46] then built
    else if name = [46, 46] then built.tail
    else name :: built) []
  if names.isEmpty then [47] else names.reverse.flatMap fun name => 47 :: name

/-- The directory of the script, as it is known to it. -/
def currentDirectory : Run Bytes := do
  match (← get).value? (ascii "PWD") with
  | some path => if path.head? = some 47 then return path else physical
  | none => physical
where
  /-- The directory as the kernel knows it. -/
  physical : Run Bytes := do
    match ← Run.serve .workingDirectory with
    | .ok path => return path
    | .error _ => return []

/-- Changes the directory, and answers whether that went well. -/
def enterDirectory (isPhysical : Bool) (path : Bytes) : Run Bool := do
  let here ← currentDirectory
  let target := if isPhysical then path else normalized here path
  match ← Run.perform (.changeDirectory target) with
  | .error _ => return false
  | .ok _ =>
    let there ← if isPhysical then currentDirectory.physical else pure target
    setVariable (ascii "OLDPWD") here true
    setVariable (ascii "PWD") there true
    return true

/-- Goes to the first of several directories that there is. -/
def enterFirst (isPhysical : Bool) (path : Bytes) : List Bytes → Run (Option Bool)
  | [] => return none
  | directory :: rest => do
    let full := if directory.isEmpty then path else directory ++ 47 :: path
    match ← Run.serve (.inspect full true) with
    | .ok info =>
      if info.kind = .directory && (← enterDirectory isPhysical full) then return some !directory.isEmpty
      else enterFirst isPhysical path rest
    | .error _ => enterFirst isPhysical path rest

def cdBuiltin : Builtin := fun argv => do
  let (given, args) ← optionsOf "LP" argv
  let isPhysical := (given.getLast?.map (·.1)) == some 'P'
  let s ← get
  let isBack := args.head? = some [45]
  let path := match args.head? with
    | none => (s.value? (ascii "HOME")).getD []
    | some path => if isBack then (s.value? (ascii "OLDPWD")).getD [] else path
  let isFree := path.head? != some 47 && path.head? != some 46
  let list := match s.value? (ascii "CDPATH") with
    | some list => if isFree then list.splitOnP (· == 58) else []
    | none => []
  let shows ← match ← enterFirst isPhysical path list with
    | some shows => pure shows
    | none =>
      if path.isEmpty then pure false
      else if ← enterDirectory isPhysical path then pure isBack
      else Run.fail (ascii "can't cd to " ++ path)
  if shows then Run.write ((← currentDirectory) ++ [10])
  return 0

def pwdBuiltin : Builtin := fun argv => do
  let (given, _) ← optionsOf "LP" argv
  let isPhysical := (given.getLast?.map (·.1)) == some 'P'
  let path ← if isPhysical then currentDirectory.physical else currentDirectory
  Run.write (path ++ [10])
  return 0

/-! ### Variables -/

/-- Variables in the order of their names, as commands that set them. -/
def showVariables (front : Bytes) (which : Variable → Bool) : Run Unit := do
  let all := (← get).bindings.filter which
  let sorted := all.mergeSort fun v w => before v.name w.name
  sorted.forM fun v =>
    match v.value with
    | some value => Run.write (front ++ v.name ++ 61 :: inQuotes value ++ [10])
    | none => if front.isEmpty then return else Run.write (front ++ v.name ++ [10])

/-- Marks a variable. -/
def markVariable (name : Bytes) (mark : Variable → Variable) : Run Unit := do
  let s ← get
  match s.find? name with
  | some v => set (s.putVariable (mark v))
  | none => set (s.putVariable (mark { name, value := none }))

/-- The builtins `export` and `readonly`. -/
def markBuiltin (which : Variable → Bool) (mark : Variable → Variable) : Builtin := fun argv => do
  let (given, args) ← optionsOf "p" argv
  if args.isEmpty || isGiven given 'p' then
    showVariables (argv.headD [] ++ [32]) which
    return 0
  else
    args.forM fun arg => do
      let (name, value) := splitAssignment arg
      if !isName name then Run.fail (name ++ ascii ": bad variable name")
      if arg.contains 61 then setVariable name value false
      markVariable name mark
    return 0

def unsetBuiltin : Builtin := fun argv => do
  let (given, args) ← optionsOf "vf" argv
  if isGiven given 'f' then
    modify fun s => { s with functions := s.functions.filter fun f => !args.contains f.1 }
  else
    args.forM fun name => do
      if isName name then unsetVariable name else Run.fail (name ++ ascii ": bad variable name")
  return 0

/-- Keeps what a variable is, to be put back behind the command or the function that runs. -/
def hideVariable (name : Bytes) : Run Unit :=
  modify fun s =>
    match s.hidden with
    | frame :: frames =>
      if frame.any fun h => h.1 == name then s
      else { s with hidden := ((name, s.find? name) :: frame) :: frames }
    | [] => s

/-- The builtin `local`. -/
def localBuiltin : Builtin := fun argv => do
  if (← get).hidden.isEmpty then Run.fail (ascii "not in a function")
  else
    argv.tail.forM fun arg => do
      let (name, value) := splitAssignment arg
      if !isName name then Run.fail (name ++ ascii ": bad variable name")
      hideVariable name
      if arg.contains 61 then setVariable name value false
    return 0

/-- Puts back the variables that were hidden last. -/
def restoreVariables : Run Unit :=
  modify fun s =>
    match s.hidden with
    | frame :: frames =>
      frame.foldl (fun s h =>
        match h.2 with
        | some v => s.putVariable v
        | none => s.dropVariable h.1) { s with hidden := frames }
    | [] => s

/-- Bytes that were read, each with whether it was behind a backslash. -/
abbrev ReadBytes := List (UInt8 × Bool)

/-- Cuts what was read into fields, as many as asked for; the last one has all the rest. -/
def cutFields (separators : Bytes) : Nat → ReadBytes → List Bytes
  | 0, _ => []
  | 1, text =>
    let soft (m : UInt8 × Bool) : Bool := !m.2 && separators.contains m.1 && usualSeparators.contains m.1
    let text := text.dropWhile soft
    let trimmed := (text.reverse.dropWhile soft).reverse
    let trimmed := match trimmed.getLast? with
      | some last =>
        let inside := trimmed.dropLast
        let isSeparator (m : UInt8 × Bool) : Bool := !m.2 && separators.contains m.1
        if isSeparator last && !inside.any isSeparator then inside
        else trimmed
      | none => trimmed
    [trimmed.map (·.1)]
  | n + 2, text =>
    let hard (m : UInt8 × Bool) : Bool := !m.2 && separators.contains m.1
    let soft (m : UInt8 × Bool) : Bool := hard m && usualSeparators.contains m.1
    let text := text.dropWhile soft
    let field := text.takeWhile (!hard ·)
    let rest := (text.drop field.length).dropWhile soft
    let rest := match rest with
      | m :: more => if hard m then more else rest
      | [] => rest
    field.map (·.1) :: cutFields separators (n + 1) rest

/-- Reads a line, byte by byte. The flag says whether its end was found. -/
def readInput (raw : Bool) : Run (ReadBytes × Bool) :=
  Run.repeated (fun ((built, hidden) : ReadBytes × Bool) => do
    match ← Run.perform (.read 0 1) with
    | .ok [b] =>
      if b = 0 then return .inl (built, hidden)
      else if hidden then return .inl (if b = 10 then built else (b, true) :: built, false)
      else if b = 92 && !raw then return .inl (built, true)
      else if b = 10 then return .inr (built.reverse, true)
      else return .inl ((b, false) :: built, false)
    | _ => return .inr (built.reverse, false)) ([], false)

def readBuiltin : Builtin := fun argv => do
  let (given, names) ← optionsOf "p:r" argv
  if let some (_, prompt) := given.find? (·.1 == 'p') then
    if ← Run.perform (.isTerminal 0) then Run.lift (Utility.warn prompt)
  if names.isEmpty then Run.fail (ascii "arg count")
  else
    let (text, found) ← readInput (isGiven given 'r')
    let s ← get
    let fields := cutFields s.separators names.length text
    (names.zip (fields ++ List.replicate names.length [])).forM fun (name, value) =>
      if isName name then setVariable name value false else Run.fail (name ++ ascii ": bad variable name")
    return if found then 0 else 1

/-! ### Options and arguments -/

/-- The options that have a name, and their letters. -/
def optionNames : List (String × Char) :=
  [("errexit", 'e'), ("noglob", 'f'), ("ignoreeof", 'I'), ("interactive", 'i'), ("monitor", 'm'),
   ("noexec", 'n'),
   ("stdin", 's'), ("xtrace", 'x'), ("verbose", 'v'), ("vi", 'V'), ("emacs", 'E'), ("noclobber", 'C'),
   ("allexport", 'a'), ("notify", 'b'), ("nounset", 'u'), ("privileged", 'p'), ("nolog", '\x00'),
   ("debug", '\x01')]

/-- Sets or unsets an option. The options are kept with the last one first. -/
def setOption (on : Bool) (c : Char) : Run Unit := do
  if optionNames.any fun o => o.2 == c then
    modify fun s =>
      let chosen := if on then c :: s.options else s.options.filter (· != c)
      { s with options := ((optionNames.map (·.2)).filter chosen.contains).reverse }
  else Run.fail (ascii "Illegal option -" ++ [byte c])

/-- The options as they are set. -/
def showOptions : Run Unit := do
  let s ← get
  Run.write (ascii "Current option settings\n")
  optionNames.forM fun o =>
    Run.write (Utility.padEnd 16 (ascii o.1) ++ ascii (if s.has o.2 then "on\n" else "off\n"))

/-- The commands that set the options as they are set. -/
def showSettings : Run Unit := do
  let s ← get
  optionNames.forM fun o =>
    Run.write (ascii (if s.has o.2 then "set -o " else "set +o ") ++ ascii o.1 ++ [10])

/-- Reads the letters of one argument that sets options, and the name behind the letter `o`. -/
def setLetters (on : Bool) : Bytes → List Bytes → Run (List Bytes)
  | [], rest => return rest
  | b :: letters, rest => do
    if b = 111 then
      match rest with
      | [] =>
        if on then showOptions else showSettings
        setLetters on letters rest
      | name :: rest =>
        match optionNames.find? fun o => ascii o.1 == name with
        | some o => setOption on o.2
        | none => Run.fail (ascii "Illegal option -o " ++ name)
        setLetters on letters rest
    else
      setOption on (charOf b)
      setLetters on letters rest

/-- Sets options; the answer is the arguments behind them, if there are to be new ones. -/
def setOptions : Nat → List Bytes → Run (Option (List Bytes))
  | 0, args => return some args
  | fuel + 1, args => do
    match args with
    | [] => return none
    | (45 :: letters) :: rest =>
      if letters = [45] then return some rest
      else if letters.isEmpty then
        setOption false 'x'
        setOption false 'v'
        return if rest.isEmpty then none else some rest
      else
        let rest ← setLetters true letters rest
        setOptions fuel rest
    | (43 :: letters) :: rest =>
      let rest ← setLetters false letters rest
      setOptions fuel rest
    | args => return some args

def setBuiltin : Builtin := fun argv => do
  if argv.length = 1 then
    showVariables [] fun _ => true
    return 0
  else
    if let some args ← setOptions (argv.length + 1) argv.tail then
      modify fun s => { s with args, optionPlace := (1, 0) }
    return 0

def shiftBuiltin : Builtin := fun argv => do
  let n ← match argv.tail with
    | [] => pure 1
    | arg :: _ => numberOf arg
  let s ← get
  if s.args.length < n then Run.fail (ascii "can't shift that many")
  else
    set { s with args := s.args.drop n, optionPlace := (1, 0) }
    return 0

/-- Sets what `getopts` has found. -/
def setFound (target found : Bytes) (place : Nat × Nat) (done : Bool) : Run Int := do
  setVariable (ascii "OPTIND") (digits place.1) false
  setVariable target found false
  modify fun s => { s with optionPlace := place }
  return if done then 1 else 0

def getoptsBuiltin : Builtin := fun argv => do
  match argv.tail with
  | spec :: target :: rest =>
    let s ← get
    let args := if rest.isEmpty then s.args else rest
    let (number, letter) := s.optionPlace
    let inside := if letter = 0 || number ≤ 1 then [] else ((args[number - 2]?).getD []).drop letter
    let (word, number, letter) :=
      if !inside.isEmpty then (inside, number, letter)
      else
        match args[number - 1]? with
        | some (45 :: b :: more) => (b :: more, number + 1, 1)
        | _ => ([], number, 0)
    match word with
    | [] => setFound target [63] (number, 0) true
    | [45] =>
      if letter = 1 then setFound target [63] (number, 0) true else unknown spec target 45 [] number letter
    | b :: behind =>
      match b != 58, spec.dropWhile (· != b) with
      | true, _ :: 58 :: _ =>
        if !behind.isEmpty then
          setVariable (ascii "OPTARG") behind false
          setFound target [b] (number, 0) false
        else
          match args[number - 1]? with
          | some value =>
            setVariable (ascii "OPTARG") value false
            setFound target [b] (number + 1, 0) false
          | none =>
            if spec.head? = some 58 then
              setVariable (ascii "OPTARG") [b] false
              setFound target [58] (number, 0) false
            else
              Run.lift (Utility.warn (ascii "No arg for -" ++ [b] ++ ascii " option\n"))
              unsetVariable (ascii "OPTARG")
              setFound target [63] (number, 0) false
      | true, _ :: _ =>
        setVariable (ascii "OPTARG") [] false
        setFound target [b] (number, letter + 1) false
      | _, _ => unknown spec target b behind number letter
  | _ => Run.fail (ascii "Usage: getopts optstring var [arg]")
where
  /-- A letter that is no option. -/
  unknown (spec target : Bytes) (b : UInt8) (_behind : Bytes) (number letter : Nat) : Run Int := do
    if spec.head? = some 58 then setVariable (ascii "OPTARG") [b] false
    else
      Run.lift (Utility.warn (ascii "Illegal option -" ++ [b, 10]))
      unsetVariable (ascii "OPTARG")
    setFound target [63] (number, letter + 1) false

/-! ### The mask -/

/-- A mask in letters. -/
def maskText (mask : Nat) : Bytes :=
  let letters (shift : Nat) : Bytes :=
    (if mask.testBit (shift + 2) then [] else [114]) ++ (if mask.testBit (shift + 1) then [] else [119]) ++
      (if mask.testBit shift then [] else [120])
  ascii "u=" ++ letters 6 ++ ascii ",g=" ++ letters 3 ++ ascii ",o=" ++ letters 0

def umaskBuiltin : Builtin := fun argv => do
  let (given, args) ← optionsOf "S" argv
  let mask ← Run.serve (.setMask 0)
  let _ ← Run.serve (.setMask mask)
  match args with
  | [] =>
    let shown :=
      if isGiven given 'S' then maskText mask else Utility.padStart 48 4 (Utility.digitsIn 8 mask)
    Run.write (shown ++ [10])
    return 0
  | text :: _ =>
    if text.head?.any Utility.isDigit then
      let (n, _, rest) := Utility.takeDigits 8 text 0 0
      if !rest.isEmpty || 0o777 < n then Run.fail (ascii "Illegal number: " ++ text)
      let _ ← Run.serve (.setMask n)
      return 0
    else
      match Utility.readMode? text with
      | some spec =>
        let mode := spec.apply false 0 (0o777 - mask % 0o1000)
        let _ ← Run.serve (.setMask (0o777 - mode % 0o1000))
        return 0
      | none => Run.fail (ascii "Illegal mode: " ++ text)

/-! ### Signals and children -/

/-- What is said about the way in which `kill` is called. -/
def killUsage : Bytes :=
  ascii ("Usage: kill [-s sigspec | -signum | -sigspec] [pid | job]... or\n" ++ "kill -l [exitstatus]")

/-- The process or the group of processes that an argument means. -/
def targetOf (text : Bytes) : Run Pid := do
  match text with
  | 45 :: number => return -((← numberOf number : Nat) : Int)
  | 37 :: number =>
    match (numberedWork? (← get) number).bind (·.children.head?) with
    | some c => return -c.pid
    | none => Run.fail (ascii "No such job: " ++ text)
  | _ => return ((← numberOf text : Nat) : Int)

/-- Sends a signal to processes. -/
def sendSignal (signal : Nat) : List Bytes → Int → Run Int
  | [], status => return status
  | target :: rest, status => do
    let pid ← targetOf target
    match ← Run.perform (.kill pid signal) with
    | .ok _ => sendSignal signal rest status
    | .error e =>
      Run.warn (e.libraryText.encode ++ [10])
      sendSignal signal rest 1

/-- Lists signals, or the one that a status stands for. -/
def listSignals (args : List Bytes) : Run Int := do
  match args with
  | [] =>
    Run.write (ascii "0\n")
    (List.range' 1 signalCount).forM fun n => Run.write (signalName n ++ [10])
    return 0
  | text :: _ =>
    let n ← numberOf text
    let n := if 128 < n then n - 128 else n
    if 0 < n && n ≤ 64 then
      Run.write (signalName n ++ [10])
      return 0
    else Run.fail (ascii "invalid signal number or exit status: " ++ text)

def killBuiltin : Builtin := fun argv => do
  match argv.tail with
  | [] => Run.fail killUsage
  | (45 :: name) :: rest =>
    match signalOf? 1 name with
    | some signal => if rest.isEmpty then Run.fail killUsage else sendSignal signal rest 0
    | none =>
      let (given, rest) ← optionsOf "ls:" argv
      let signal ← match given.find? (·.1 == 's') with
        | some (_, name) =>
          match signalOf? 1 name with
          | some signal => pure signal
          | none => Run.fail (ascii "invalid signal number or name: " ++ name)
        | none => pure 15
      if isGiven given 'l' then listSignals rest
      else if rest.isEmpty then Run.fail killUsage
      else sendSignal signal rest 0
  | rest => sendSignal 15 rest 0

/-- The status that says which signal has come while something was waited for. -/
def interruptedStatus : Run Int := do
  return 128 + ((← get).arrived.headD 0 : Nat)

/-- Marks work of which the script knows how it ended. -/
def markKnown (which : Work → Bool) : Run Unit :=
  modify fun s => { s with work := s.work.map fun w => if which w then { w with known := true } else w }

/-- Waits for work in the background. There is no answer if a signal came before. -/
def waitFor (w : Work) : Run (Option Int) := do
  let now (s : Scope) : Option Work := s.work.find? (·.number = w.number)
  if ← awaitWork (some w.number) fun s => (now s).all (·.isDone) then
    markKnown (·.number = w.number)
    return some (statusOf (((now (← get)).map (·.children)).getD []))
  else return none

/-- Waits for the work that arguments name, one after the other. -/
def waitForEach : List Bytes → Int → Run Int
  | [], status => return status
  | arg :: rest, status => do
    let work ← match arg with
      | 37 :: number =>
        match numberedWork? (← get) number with
        | some w => pure (some w)
        | none => Run.fail (ascii "No such job: " ++ arg)
      | _ => do
        let pid ← numberOf arg
        pure (workOf? (← get) (pid : Int))
    match work with
    | none => waitForEach rest status
    | some w =>
      match ← waitFor w with
      | some status => waitForEach rest status
      | none => interruptedStatus

def waitBuiltin : Builtin := fun argv => do
  let (_, args) ← optionsOf "" argv
  if args.isEmpty then
    if ← awaitWork none fun s => s.work.all (·.isDone) then
      markKnown fun _ => true
      return 0
    else interruptedStatus
  else waitForEach args 127

/-- How work in the background stands. -/
def Work.state (w : Work) : Bytes :=
  match w.isDone, (w.children.getLast?).bind (·.report) with
  | true, some (.exited _ code) =>
    if code = 0 then ascii "Done" else ascii "Done(" ++ (Text.ofInt code).encode ++ [41]
  | true, some (.signaled _ signal core) => signalText signal ++ (if core then ascii " (core dumped)" else [])
  | _, _ => ascii "Running"

/-- The work that an argument means. -/
def workNamed (text : Bytes) : Run Work := do
  match text, numberedWork? (← get) text.tail with
  | 37 :: _, some w => return w
  | _, _ => Run.fail (ascii "No such job: " ++ text)

/-- Lists work in the background; what is done is forgotten. -/
def jobsBuiltin : Builtin := fun argv => do
  let (given, args) ← optionsOf "lp" argv
  if args.isEmpty then
    collectChildren
    (← get).work.reverse.forM (list given)
  else args.forM fun arg => do list given (← workNamed arg)
  return 0
where
  /-- Lists work; the newest has a plus sign, and the one before it a minus sign. -/
  list (given : List (Char × Bytes)) (w : Work) : Run Unit := do
    let s ← get
    let pids := w.children.map fun c => (Text.ofInt c.pid).encode
    if isGiven given 'p' then Run.write (pids.headD [] ++ [10])
    else
      let place := (s.work.reverse.takeWhile fun v => v.number != w.number).length
      let mark : UInt8 := if place = 0 then 43 else if place = 1 then 45 else 32
      let front := 91 :: digits w.number ++ [93, 32, mark, 32]
      if isGiven given 'l' then
        let first := Utility.padEnd 33 (front ++ pids.headD [] ++ 32 :: w.state)
        let others := pids.tail.map fun pid =>
          ascii " |\n" ++ Utility.padEnd 33 (ascii "     " ++ pid ++ [32])
        Run.write ((first :: others).flatten ++ [10])
      else Run.write (Utility.padEnd 33 (front ++ w.state) ++ [10])
    if w.isDone then modify fun s => { s with work := s.work.filter fun v => v.number != w.number }

/-- The builtins `fg` and `bg`: a script has no jobs that they could act on. -/
def jobControlBuiltin : Builtin := fun argv => do
  let (_, args) ← optionsOf "" argv
  let s ← get
  match args with
  | [] =>
    if s.work.isEmpty then Run.fail (ascii "No current job")
    else Run.fail (ascii "job (null) not created under job control")
  | arg :: _ =>
    let _ ← workNamed arg
    Run.fail (ascii "job " ++ arg ++ ascii " not created under job control")

/-- Makes a trap known to the kernel. -/
def setReaction (signal : Nat) (action : Option Bytes) : Run Unit := do
  if signal != 0 then
    let reaction : Reaction := match action with
      | none => .default
      | some [] => .ignore
      | some _ => .note
    Run.serve (.react signal reaction)

/-- Sets one trap. -/
def setTrap (signal : Nat) (action : Option Bytes) : Run Unit := do
  setReaction signal action
  modify fun s =>
    let others := s.traps.filter (·.1 != signal)
    { s with traps := others ++ (action.map fun a => (signal, a)).toList }

def trapBuiltin : Builtin := fun argv => do
  let (_, args) ← optionsOf "" argv
  match args with
  | [] =>
    let traps := (← get).traps
    (List.range 65).forM fun n =>
      match traps.find? (·.1 = n) with
      | some (_, action) => Run.write (ascii "trap -- " ++ inQuotes action ++ 32 :: signalName n ++ [10])
      | none => return
    return 0
  | first :: rest =>
    let isSignal := (Utility.readNat? first).any (· ≤ 64)
    let (action, names) := if rest.isEmpty || isSignal then (none, args) else (some first, rest)
    let action := if action = some [45] then none else action
    let rec each : List Bytes → Run Int
      | [] => return 0
      | name :: more => do
        match signalOf? 0 name with
        | some signal =>
          setTrap signal action
          each more
        | none =>
          Run.lift (Utility.warn (ascii "trap: " ++ name ++ ascii ": bad trap\n"))
          return 1
    each names

/-! ### Others -/

def timesBuiltin : Builtin := fun _ => do
  Run.write (ascii "0m0.000000s 0m0.000000s\n0m0.000000s 0m0.000000s\n")
  return 0

def ulimitBuiltin : Builtin := fun argv => do
  let (_, args) ← optionsOf "HSatfdscmlpnvwr" argv
  match args with
  | [] => Run.write (ascii "unlimited\n")
  | arg :: rest =>
    if !rest.isEmpty then Run.fail (ascii "too many arguments")
    if arg != ascii "unlimited" && !arg.all Utility.isDigit then Run.fail (ascii "bad number")
  return 0

/-- The builtins that run no other commands. -/
def builtins : List (String × Builtin) :=
  [(":", fun _ => return 0), ("[", testBuiltin), ("alias", fun _ => return 0), ("bg", jobControlBuiltin),
   ("cd", cdBuiltin), ("chdir", cdBuiltin), ("echo", echoBuiltin),
   ("export", markBuiltin (·.exported) fun v => { v with exported := true }), ("false", fun _ => return 1),
   ("fg", jobControlBuiltin), ("getopts", getoptsBuiltin), ("jobs", jobsBuiltin), ("kill", killBuiltin),
   ("local", localBuiltin), ("printf", printfBuiltin),
   ("pwd", pwdBuiltin), ("read", readBuiltin),
   ("readonly", markBuiltin (·.fixed) fun v => { v with fixed := true }), ("set", setBuiltin),
   ("shift", shiftBuiltin), ("test", testBuiltin), ("times", timesBuiltin), ("trap", trapBuiltin),
   ("true", fun _ => return 0), ("ulimit", ulimitBuiltin), ("umask", umaskBuiltin),
   ("unalias", fun _ => return 0), ("unset", unsetBuiltin), ("wait", waitBuiltin)]

/-- The builtins that run other commands, or change which commands are run. -/
def controls : List String :=
  [".", "break", "command", "continue", "eval", "exec", "exit", "hash", "return", "type"]

/-- The builtin with a name. -/
def builtin? (name : Bytes) : Option Builtin :=
  (builtins.find? fun b => ascii b.1 == name).map (·.2)

/-- Whether a name is that of a builtin. -/
def isBuiltin (name : Bytes) : Bool :=
  (builtin? name).isSome || controls.any fun c => ascii c == name

/-- Whether the arguments of a builtin may set variables. -/
def takesAssignments (name : Bytes) : Bool :=
  ["export", "readonly", "local"].any fun n => ascii n == name

end JobShell.Script
