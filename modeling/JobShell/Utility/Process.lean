import JobShell.Utility.Numeral
import JobShell.Utility.Options

/-! # Programs about processes

`true` and `false` do nothing, `sleep` waits, `env` runs another program in a changed environment, and
`timeout` stops another program when it takes too long. -/

namespace JobShell.Utility

open Printer

def succeed : Utility := fun _ => return 0

def fail : Utility := fun _ => return 1

/-! ### Time -/

/-- The letter of a unit of time, with the length of the unit in seconds. -/
def timeUnit? : Bytes → Option Nat
  | [] => some 1
  | [b] =>
    match charOf b with
    | 's' => some 1
    | 'm' => some 60
    | 'h' => some 3600
    | 'd' => some 86400
    | _ => none
  | _ => none

/-- The nanoseconds of a second. -/
def second : Nat := 1000000000

/-- A time that does not come. -/
def forever : Nat := power 10 30

/-- Takes the name of infinity off a text. -/
def takeInfinity? (text : Bytes) : Option Bytes :=
  let lower := (trimStart text).map toLower
  let lower := if lower.head? = some 43 then lower.drop 1 else lower
  if (ascii "infinity").isPrefixOf lower then some (lower.drop 8)
  else if (ascii "inf").isPrefixOf lower then some (lower.drop 3)
  else none

/-- Reads a duration as nanoseconds; a unit may stand behind the number. -/
def readDuration? (text : Bytes) : Option Nat :=
  match takeInfinity? text with
  | some rest => (timeUnit? rest).map fun _ => forever
  | none =>
    match Decimal.take? text with
    | none => none
    | some (x, rest) =>
      if x.numerator < 0 then none
      else (timeUnit? rest).map fun unit => x.numerator.toNat * unit * second / x.denominator

def sleep : Utility := printing 1 fun args => do
  let a := Arguments.read [] args
  a.check 1
  if a.operands.isEmpty then misuse 1 (ascii "missing operand")
  let wrong := a.operands.filter fun arg => (readDuration? arg).isNone
  if wrong.isEmpty then
    serve (.sleep ((a.operands.filterMap readDuration?).foldl (· + ·) 0))
    return 0
  else
    wrong.forM fun arg => complain (ascii "invalid time interval " ++ quoted arg)
    pointToHelp
    return 1

/-- How often a program that may take too long is looked at. -/
def lookInterval : Nat := 10000000

def timeoutRows : List OptionRow :=
  [⟨none, ["foreground"], .nothing⟩, ⟨some 'k', ["kill-after"], .value⟩,
   ⟨none, ["preserve-status"], .nothing⟩, ⟨some 's', ["signal"], .value⟩, ⟨some 'v', ["verbose"], .nothing⟩]

/-- The signal with a name or a number. -/
def signalNumber? (text : Bytes) : Option Nat :=
  match readNat? text with
  | some n => if n ≤ 64 then some n else none
  | none =>
    let name := (Text.decode? (text.map toUpper)).getD []
    let found := Signal.table.find? fun r => r.2.toList == name || ("SIG" ++ r.2).toList == name
    found.map fun r => r.1.number

/-- Becomes another program; if that fails it is said why. -/
def becomeOrDie {α : Type} (program : List Bytes) : Printer α := do
  flush
  let e ← perform (.execute program)
  complainOf (ascii "failed to run command " ++ quoted (program.headD [])) e
  quit (if e = .noEntry then 127 else 126)

/-- What is to be done about a program that takes too long. -/
structure Deadline where
  /-- After how many nanoseconds the program is stopped; zero means never. -/
  limit : Nat
  /-- The number of the signal that stops it. -/
  signal : Nat
  /-- After how many more nanoseconds the program is killed. -/
  patience : Nat := 0
  /-- The program alone gets the signal, not its whole group. -/
  alone : Bool := false
  /-- What is said before a signal is sent, which is nothing without a command. -/
  command : Option Bytes := none
deriving Repr

namespace Deadline

/-- The signal that can not be caught. -/
def kill : Nat := 9

/-- The signal by which a stopped program goes on. -/
def resume : Nat := 18

/-- The name of a signal, or its number. -/
def shownSignal (n : Nat) : Bytes :=
  match Signal.table.find? fun r => r.1.number = n with
  | some r => ascii r.2
  | none => digits n

/-- Stops the program, and with it everything in the group of the one that waits, which itself takes no notice
unless it is killed. -/
def strike (x : Deadline) (child : Pid) : Printer Unit := do
  if let some command := x.command then
    complain (ascii "sending signal " ++ shownSignal x.signal ++ ascii " to command " ++ quoted command)
  let _ ← perform (.kill child x.signal)
  if !x.alone then
    serve (.react x.signal .ignore)
    let _ ← perform (.kill 0 x.signal)
    if x.signal != kill && x.signal != resume then
      let _ ← perform (.kill child resume)
      serve (.react resume .ignore)
      let _ ← perform (.kill 0 resume)

/-- Waits for a program, and stops it when it is too late. The flag says whether that happened. -/
def await (x : Deadline) (child : Pid) : Printer (Option Report × Bool) :=
  repeated (fun ((passed, x, late) : Nat × Deadline × Bool) => do
    match ← perform (.wait child (late && x.limit = 0)) with
    | .error _ => return .inr (none, late)
    | .ok .alive =>
      if x.limit ≤ passed && 0 < x.limit then
        x.strike child
        return .inl (0, { x with limit := x.patience, patience := 0, signal := kill }, true)
      else
        serve (.sleep lookInterval)
        return .inl (passed + lookInterval, x, late)
    | .ok report => return .inr (some report, late)) (0, x, false)

end Deadline

def timeout : Utility := printing 125 fun args => do
  let a := Arguments.readInFront timeoutRows args
  let duration (text : Bytes) : Printer Nat :=
    match readDuration? text with
    | some d => return d
    | none => misuse 125 (ascii "invalid time interval " ++ quoted text)
  let (patience, signal) ← a.given.foldlM (fun (patience, signal) g =>
    match g.key, g.value with
    | "k", some text => do return (← duration text, signal)
    | "s", some name =>
      match signalNumber? name with
      | some n => return (patience, n)
      | none => misuse 125 (quoted name ++ ascii ": invalid signal")
    | _, _ => return (patience, signal)) (0, 15)
  a.check 125
  match a.operands with
  | [] | [_] => do
    pointToHelp
    return 125
  | time :: program =>
    let limit ← duration time
    let alone := a.has "foreground"
    if !alone then
      let _ ← perform (.setGroup 0 0)
    match ← perform .fork with
    | .error _ => return 125
    | .ok .child => becomeOrDie program
    | .ok (.parent child) =>
      let command := if a.has "v" then program.head? else none
      let (report, late) ← Deadline.await { limit, signal, patience, alone, command } child
      let ending (code : Int) : Int := if late && !a.has "preserve-status" then 124 else code
      match report with
      | some (.exited _ code) => return ending code
      | some (.signaled _ n _) =>
        if late then return if n = Deadline.kill then 128 + n else ending (128 + n)
        else
          flush
          serve (.react n .default)
          let own ← perform .ownPid
          let _ ← perform (.kill own n)
          return 128 + n
      | _ => return 125

/-! ### Environment -/

/-- A variable with its value, as it is written in an argument. -/
def readVariable? (arg : Bytes) : Option (Bytes × Bytes) :=
  match arg.dropWhile (· != 61) with
  | [] => none
  | _ :: value => some (arg.takeWhile (· != 61), value)

/-- Sets a variable of an environment; one that is there keeps its place. -/
def setVariable (environment : List (Bytes × Bytes)) (v : Bytes × Bytes) : List (Bytes × Bytes) :=
  if environment.any (·.1 == v.1) then environment.map fun w => if w.1 == v.1 then v else w
  else environment ++ [v]

/-- A text that is cut into words: the words so far, the last one first and each from its end. -/
structure WordCut where
  words : List Bytes := []
  /-- The word that is being read, if one has begun. -/
  word : Option Bytes := none
  /-- The quote that is open. -/
  quote : Option UInt8 := none

namespace WordCut

/-- Puts bytes at the end of the word. -/
def add (c : WordCut) (bytes : Bytes) : WordCut := { c with word := some (bytes.reverse ++ c.word.getD []) }

/-- Ends the word. -/
def cut (c : WordCut) : WordCut := { c with words := c.word.toList ++ c.words, word := none }

/-- The words, if no quote is open. -/
def done (c : WordCut) : Except Bytes (List Bytes) :=
  if c.quote.isSome then .error (ascii "no terminating quote in -S string")
  else .ok ((c.cut.words.map List.reverse).reverse)

/-- Takes the name of a variable out of its braces. -/
def braced? (text : Bytes) : Option (Bytes × Bytes) :=
  match text with
  | 123 :: b :: rest =>
    let name := (b :: rest).takeWhile fun c => isLetter c || isDigit c || c == 95
    match (b :: rest).drop name.length with
    | 125 :: behind => if name.isEmpty || isDigit b then none else some (name, behind)
    | _ => none
  | _ => none

/-- Cuts a text into words at blanks, as far as quotes allow. -/
def read (value? : Bytes → Option Bytes) : Nat → WordCut → Bytes → Except Bytes (List Bytes)
  | 0, c, _ => c.done
  | _, c, [] => c.done
  | fuel + 1, c, b :: rest =>
    let double := c.quote == some 34
    let single := c.quote == some 39
    if (b = 39 && !double) || (b = 34 && !single) then
      read value? fuel { c.add [] with quote := if c.quote.isSome then none else some b } rest
    else if isSpace b && c.quote.isNone then read value? fuel c.cut rest
    else if b = 35 && c.word.isNone && c.quote.isNone then c.done
    else if b = 92 && !(single && rest.head? != some 92 && rest.head? != some 39) then
      match rest with
      | [] => .error (ascii "invalid backslash at end of string in -S")
      | e :: rest =>
        match charOf e with
        | '"' | '#' | '$' | '\'' | '\\' => read value? fuel (c.add [e]) rest
        | '_' => if double then read value? fuel (c.add [32]) rest else read value? fuel c.cut rest
        | 'c' =>
          if double then .error (ascii "'\\c' must not appear in double-quoted -S string") else c.done
        | 'f' => read value? fuel (c.add [12]) rest
        | 'n' => read value? fuel (c.add [10]) rest
        | 'r' => read value? fuel (c.add [13]) rest
        | 't' => read value? fuel (c.add [9]) rest
        | 'v' => read value? fuel (c.add [11]) rest
        | _ => .error (ascii "invalid sequence '\\" ++ [e] ++ ascii "' in -S")
    else if b = 36 && !single then
      match braced? rest with
      | none =>
        .error (ascii "only $\x7bVARNAME\x7d expansion is supported, error at: " ++ b :: rest)
      | some (name, behind) =>
        match value? name with
        | some value => read value? fuel (c.add value) behind
        | none => read value? fuel c behind
    else read value? fuel (c.add [b]) rest

end WordCut

def envRows : List OptionRow :=
  [⟨some 'i', ["ignore-environment"], .nothing⟩, ⟨some 'u', ["unset"], .value⟩,
   ⟨some '0', ["null"], .nothing⟩, ⟨some 'C', ["chdir"], .value⟩, ⟨some 'S', ["split-string"], .value⟩,
   ⟨some 'v', ["debug"], .nothing⟩]

/-- Reads the arguments of `env`, where an option may stand for several arguments. -/
def envArguments (value? : Bytes → Option Bytes) : Nat → List Bytes → Except Bytes Arguments
  | 0, args => .ok (Arguments.readInFront envRows args)
  | fuel + 1, args =>
    let a := Arguments.readInFront envRows args
    match a.given.findIdx? (·.key == "S") with
    | none => .ok a
    | some i => do
      let text := ((a.given[i]?).bind (·.value)).getD []
      let words ← WordCut.read value? (text.length + 1) {} text
      let rest ← envArguments value? fuel (words ++ a.operands)
      return { rest with given := a.given.take i ++ rest.given }

/-- Says what `env` does, if it is to say so. -/
def envNote (a : Arguments) (message : Bytes) : Printer Unit := do
  if a.has "v" then
    flushQuietly
    lift (warn (message ++ [10]))

/-- Takes a variable out of an environment, for an option of `env`. -/
def envWithout (a : Arguments) (environment : List (Bytes × Bytes)) (g : Given) :
    Printer (List (Bytes × Bytes)) := do
  match g.key, g.value with
  | "u", some name =>
    envNote a (ascii "unset:    " ++ name)
    if name.isEmpty || name.contains 61 then
      die 125 (ascii "cannot unset " ++ quoted name ++ ascii ": Invalid argument")
    else return environment.filter (·.1 != name)
  | _, _ => return environment

def env : Utility := printing 125 fun args => do
  let environment ← perform .environment
  let a ← match envArguments (fun name => (environment.find? (·.1 == name)).map (·.2)) 8 args with
    | .ok a => pure a
    | .error e => die 125 e
  a.check 125
  let dash := a.operands.head? = some (ascii "-")
  let operands := if dash then a.operands.tail else a.operands
  if a.has "0" && !(operands.dropWhile fun arg => (readVariable? arg).isSome).isEmpty then
    misuse 125 (ascii "cannot specify --null (-0) with command")
  let environment ←
    if dash || a.has "i" then do
      envNote a (ascii "cleaning environ")
      pure []
    else a.given.foldlM (envWithout a) environment
  let settings := operands.takeWhile fun arg => (readVariable? arg).isSome
  settings.forM fun arg => envNote a (ascii "setenv:   " ++ arg)
  let environment := (settings.filterMap readVariable?).foldl setVariable environment
  let program := operands.drop settings.length
  if program.isEmpty then
    if (a.value? "C").isSome then misuse 125 (ascii "must specify command with --chdir (-C)")
    let ending : UInt8 := if a.has "0" then 0 else 10
    say (environment.flatMap fun (name, value) => name ++ 61 :: value ++ [ending])
    return 0
  else
    if let some directory := a.value? "C" then
      envNote a (ascii "chdir:    " ++ shellQuoted directory)
      if let .error e ← perform (.changeDirectory directory) then
        die 125 (ascii "cannot change directory to " ++ shellQuoted directory ++ ascii ": " ++
          e.libraryText.encode)
    let name := program.headD []
    envNote a (ascii "executing: " ++ name)
    (program.zipIdx).forM fun (arg, i) =>
      envNote a (ascii "   arg[" ++ digits i ++ ascii "]= " ++ quoted arg)
    serve (.setEnvironment environment)
    flush
    let e ← perform (.execute program)
    complainOf (quoted name) e
    if e = .noEntry && name.any isSpace then
      complain (ascii "use -[v]S to pass options in shebang lines")
    return if e = .noEntry then 127 else 126

def printenv : Utility := printing 2 fun args => do
  let a := Arguments.readInFront [⟨some '0', ["null"], .nothing⟩] args
  a.check 2
  let environment ← perform .environment
  let ending : UInt8 := if a.has "0" then 0 else 10
  if a.operands.isEmpty then
    say (environment.flatMap fun (name, value) => name ++ 61 :: value ++ [ending])
    return 0
  else
    let well ← all a.operands fun name => do
      match environment.find? (·.1 == name) with
      | some v =>
        say (v.2 ++ [ending])
        return true
      | none => return false
    return codeOf well

/-- An old way to write the option of `nice`: a dash, a sign if there is one, and digits. -/
def isOldAdjustment (arg : Bytes) : Bool :=
  match arg with
  | 45 :: rest =>
    let rest := if rest.head? = some 45 || rest.head? = some 43 then rest.tail else rest
    rest.head?.any isDigit
  | _ => false

/-- Reads the options of `nice`: the adjustment that was given last, and what is behind the options. -/
def niceArguments : Nat → Option Bytes → List Bytes → Option Bytes × Arguments
  | 0, adjustment, args => (adjustment, { operands := args })
  | _, adjustment, [] => (adjustment, {})
  | fuel + 1, adjustment, arg :: rest =>
    if isOldAdjustment arg then niceArguments fuel (some arg.tail) rest
    else
      let a := Arguments.readInFront [⟨some 'n', ["adjustment"], .value⟩] (arg :: rest)
      let given := a.given.reverse.head?.bind (·.value)
      (given.or adjustment, a)

/-- Runs another program, with a niceness that makes no difference here. -/
def nice : Utility := printing 125 fun args => do
  let (adjustment, a) := niceArguments (args.length + 1) none args
  a.check 125
  if let some text := adjustment then
    let number := if text.head? = some 43 || text.head? = some 45 then text.tail else text
    if number.isEmpty || !number.all isDigit then
      die 125 (ascii "invalid adjustment " ++ quoted text)
  if a.operands.isEmpty then
    if adjustment.isSome then misuse 125 (ascii "a command must be given with an adjustment")
    else
      say (ascii "0\n")
      return 0
  else
    flush
    let e ← perform (.execute a.operands)
    complainOf (quoted (a.operands.headD [])) e
    return if e = .noEntry then 127 else 126

/-- Runs another program that is not to end when its terminal is closed. -/
def nohup : Utility := printing 125 fun args => do
  let a := Arguments.readInFront [] args
  a.check 125
  if a.operands.isEmpty then misuse 125 (ascii "missing operand")
  if ← perform (.isTerminal 0) then
    let _ ← perform (.close 0)
    let _ ← perform (.openFile (ascii "/dev/null") { reads := false, writes := true })
    complain (ascii "ignoring input")
  serve (.react 1 .ignore)
  becomeOrDie a.operands

/-! ### Limits -/

/-- The limit of a process, in front of the bound up to which it may be raised; the bound is of no account here. -/
def readLimit? (text : Bytes) : Option Nat := readNat? (text.takeWhile (· != 58))

/-- Limits the descriptors of a process. -/
def prlimit : Utility := printing 1 fun args => do
  let a := Arguments.read [⟨some 'p', ["pid"], .value⟩, ⟨some 'n', ["nofile"], .maybe⟩] args
  a.check 1
  let pid ← match (a.value? "p").map fun text => (text, readNat? text) with
    | none => pure 0
    | some (_, some pid) => pure pid
    | some (text, none) => die 1 (ascii "invalid PID argument: '" ++ text ++ ascii "'")
  match (a.value? "n").bind readLimit? with
  | none => die 1 (ascii "failed to parse NOFILE limit")
  | some limit =>
    match ← serve (.limitDescriptors pid limit) with
    | .ok _ => return 0
    | .error e => do
      complainOf (ascii "failed to set the NOFILE resource limit") e
      return 1

/-! ### Surroundings -/

/-- Names the terminal that the standard input is; the first one has the number zero. -/
def tty : Utility := printing 3 fun args => do
  let a := Arguments.read [⟨some 's', ["silent", "quiet"], .nothing⟩] args
  a.check 2
  if let extra :: _ := a.operands then misuse 2 (ascii "extra operand " ++ quoted extra)
  let isTerminal ← perform (.isTerminal 0)
  if !a.has "s" then say (ascii (if isTerminal then "/dev/pts/0\n" else "not a tty\n"))
  return codeOf isTerminal

/-- Waits until everything is stored, which it always is. -/
def sync : Utility := printing 1 fun args => do
  let a := Arguments.read [⟨some 'd', ["data"], .nothing⟩, ⟨some 'f', ["file-system"], .nothing⟩] args
  a.check 1
  let well ← all a.operands fun path => do
    match ← serve (.inspect path true) with
    | .ok _ => return true
    | .error e =>
      complainOf (ascii "error opening " ++ shellQuoted path) e
      return false
  return codeOf well

end JobShell.Utility
