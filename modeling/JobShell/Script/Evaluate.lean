import JobShell.Script.Reader
import JobShell.Script.Redirect
import JobShell.Script.Search

/-! # Running commands

A command is run in the process of the script, or in a child. Each command leaves a status, on which it may
depend which commands run next. Commands are as deep in one another as there is fuel. -/

namespace JobShell.Script

open Utility (ascii digits)

/-- Where a command stands. -/
structure Place where
  /-- The process has nothing to do behind the command. -/
  last : Bool := false
  /-- Something depends on how the command ends. -/
  tested : Bool := false

/-- Something depends on how the command ends, and there is more to do. -/
def Place.test : Place := { tested := true }

/-- The place of a part of a command behind which the command has more to do. -/
def Place.inside (p : Place) : Place := { p with last := false }

/-- Sets the status. -/
def setStatus (status : Int) : Run Unit :=
  modify fun s => { s with status }

/-- Comes to a line. -/
def setLine (line : Nat) : Run Unit :=
  modify fun s => { s with line }

/-- Ends the script behind a command that has failed, if it is to do so. -/
def checkStatus (p : Place) : Run Unit := do
  let s ← get
  if s.has 'e' && !p.tested && s.status != 0 then throw .ended

/-- Whether something is to be done when a signal comes, or at the end of the script. -/
def Scope.hasTraps (s : Scope) : Bool :=
  s.traps.any fun t => !t.2.isEmpty

/-- Writes what a builtin has to write, and answers whether that went well. -/
def flushWritten : Run Bool := do
  let s ← get
  if s.written.isEmpty then return true
  else
    set { s with written := [] }
    match ← Run.lift (Stream.write 1 s.written.reverse.flatten) with
    | .ok _ => return true
    | .error _ => return false

/-! ### Words of a simple command -/

/-- Expands words until there is a field; the rest of the words is left. -/
def expandFirst (run : List Command → Run Bytes) : List Word → Run (List Bytes × List Word)
  | [] => return ([], [])
  | w :: rest => do
    match ← expandFields run w with
    | [] => expandFirst run rest
    | fields => return (fields, rest)

/-- Words of a simple command, of which the first ones are expanded. -/
structure Words where
  /-- The word `command` and its options in front of the others. -/
  front : List Bytes := []
  fields : List Bytes
  rest : List Word
  /-- A standard program is meant. -/
  standard : Bool := false

/-- Expands more words if only one field is left. -/
def Words.more (run : List Command → Run Bytes) (w : Words) : Run Words := do
  if w.fields.length = 1 then
    let (fields, rest) ← expandFirst run w.rest
    return { w with fields := w.fields ++ fields, rest }
  else return w

/-- Puts the first field to those in front. -/
def Words.shift (w : Words) : Words :=
  { w with front := w.front ++ w.fields.take 1, fields := w.fields.tail }

/-- Goes on behind the word `command` and its options, to the command that is meant. There may be none. -/
def skipOptions (run : List Command → Run Bytes) : Nat → Words → Run (Words × Bool)
  | 0, w => return (w, false)
  | fuel + 1, w => do
    let w ← w.more run
    let none := ({ w with front := [], fields := w.front ++ w.fields }, false)
    match w.fields.tail with
    | [] => return none
    | (45 :: 45 :: []) :: _ =>
      let w ← w.shift.more run
      return if w.fields.length = 1 then ({ w with front := [], fields := w.front ++ w.fields }, false)
        else (w.shift, true)
    | (45 :: b :: letters) :: _ =>
      if (b :: letters).all (· == 112) then skipOptions run fuel { w.shift with standard := true }
      else return none
    | _ => return (w.shift, true)

/-- Goes on behind each word `command` that stands in front of the command that is meant. -/
def chooseCommand (run : List Command → Run Bytes) : Nat → Bool → Words → Run Words
  | 0, _, w => return w
  | fuel + 1, functions, w => do
    let name := w.fields.headD []
    match meaningOf (← get) functions name with
    | .builtin =>
      if name = ascii "command" then
        let (chosen, found) ← skipOptions run (w.rest.length + w.fields.length + 1) w
        if found then chooseCommand run fuel false chosen else return chosen
      else return w
    | _ => return w

/-- Expands the arguments of a command; some builtins take words that set variables as they are. -/
def expandArguments (run : List Command → Run Bytes) (assigns : Bool) (words : List Word) :
    Run (List Bytes) := do
  let all ← words.mapM fun w => do
    if assigns && w.isAssignment then return [← expandText run .inLists w] else expandFields run w
  return all.flatten

/-- Sets the variables in front of a command; with `hides` they are put back behind it. -/
def assignAll (run : List Command → Run Bytes) (hides exports : Bool) : List Word → Run (List Bytes)
  | [] => return []
  | w :: rest => do
    let text ← expandText run .inLists w
    let (name, value) := splitAssignment text
    if hides then hideVariable name
    setVariable name value exports
    return text :: (← assignAll run hides exports rest)

/-- The text in front of a command that is shown. -/
def tracePrompt (run : List Command → Run Bytes) : Run Bytes := do
  let s ← get
  let text := (s.value? (ascii "PS4")).getD []
  match (readParts (8 * text.length + 16) .text true 0 []).run { rest := text } with
  | .ok (parts, _) => expandText run .nowhere parts
  | .error _ => return text

/-- Shows a command, where the errors of the script go. -/
def trace (run : List Command → Run Bytes) (kept : List Kept) (words : List Bytes) : Run Unit := do
  let s ← get
  if s.has 'x' then
    set { s with options := s.options.filter (· != 'x') }
    let front ← tracePrompt run
    modify fun t => { t with options := s.options }
    let target : Option Descriptor := match kept.find? (·.d = 2) with
      | some k => k.kept
      | none => some 2
    if let some d := target then
      let _ ← Run.lift (Stream.write d (front ++ [32].intercalate words ++ [10]))

/-! ### Children -/

/-- Starts a child, and waits for it. -/
def inChild (program : Scope → Prog Empty) : Run Unit := do
  let pid ← startChild program
  setStatus (← awaitChildren [pid])

/-- Runs a program in a child, or in the process of the script if that has no more to do. -/
def runProgram (p : Place) (standard : Bool) (argv : List Bytes) : Run Unit := do
  let name := argv.headD []
  let first ← if name.contains 47 then pure (.ok 0) else locate standard name
  match first with
  | .error e =>
    Run.warn (name ++ ascii ": " ++ missingText e)
    setStatus 127
  | .ok first =>
    if p.last && !(← get).hasTraps then become standard first argv
    else
      inChild fun s => do
        let (_, s) ← (become standard first argv).run s
        Prog.perform (.exit s.status)

/-- Makes a child one in the background: it is not interrupted from the terminal, and does not read from it.
-/
def toBackground (first : Bool) : Run Unit := do
  Run.serve (.react 2 .ignore)
  Run.serve (.react 3 .ignore)
  if first then
    let _ ← Run.perform (.close 0)
    let _ ← Run.perform (.openFile (ascii "/dev/null") .reading)

/-- Makes an end of a pipe a stream of the process. -/
def toStream (d stream : Descriptor) : Run Unit := do
  if d != stream then
    let _ ← Run.perform (.duplicate d stream)
    let _ ← Run.perform (.close d)

/-- Starts the stages of a pipeline, each with what it does; the answer is their processes. -/
def startStages (background : Bool) :
    Option Descriptor → Bool → List (Run Unit × (Run Unit → Scope → Prog Empty)) → Run (List Pid)
  | _, _, [] => return []
  | input, first, (stage, conclude) :: rest => do
    let pipe ← if rest.isEmpty then pure none else
      match ← Run.perform .pipe with
      | .ok ends => pure (some ends)
      | .error _ => Run.fail (ascii "Pipe call failed")
    let pid ← startChild (conclude do
      if background then toBackground first
      if let some (reader, _) := pipe then
        let _ ← Run.perform (.close reader)
      if let some d := input then toStream d 0
      if let some (_, writer) := pipe then toStream writer 1
      stage)
    if let some d := input then
      let _ ← Run.perform (.close d)
    if let some (_, writer) := pipe then
      let _ ← Run.perform (.close writer)
    return pid :: (← startStages background (pipe.map (·.1)) false rest)

/-- All that can be read from a descriptor, also when signals come meanwhile. -/
def readOutput (d : Descriptor) : Run Bytes := do
  let blocks ← Run.repeated (fun (blocks : List Bytes) => do
    match ← Run.perform (.read d 4096) with
    | .ok [] => return .inr blocks
    | .ok block => return .inl (block :: blocks)
    | .error e =>
      if e = .interrupted then
        noteSignals
        return .inl blocks
      else return .inr blocks) []
  return blocks.reverse.flatten

/-! ### Loops -/

/-- Runs commands in a loop. -/
def inLoop (r : Run Unit) : Run Unit := do
  modify fun s => { s with loops := s.loops + 1 }
  let result ← Run.attempt r
  modify fun s => { s with loops := s.loops - 1 }
  Run.resume result

/-- Runs the commands of a loop once, and answers whether the loop goes on; there is no answer if all of them
were run. -/
def loopStep (r : Run Unit) : Run (Option Bool) := do
  match ← Run.attempt r with
  | .ok _ => return none
  | .error (.continued n) => if n ≤ 1 then return some true else throw (.continued (n - 1))
  | .error (.broke n) => if n ≤ 1 then return some false else throw (.broke (n - 1))
  | .error e => throw e

/-- Runs a loop over values. -/
def loopOver (name : Bytes) (body : Run Unit) (values : List Bytes) : Run Unit := do
  setStatus 0
  inLoop (Run.repeated (fun values => do
    match values with
    | [] => return .inr ()
    | value :: rest =>
      setVariable name value false
      match ← loopStep body with
      | some false => return .inr ()
      | _ => return .inl rest) values)

/-- Runs a loop as long as the test has the outcome. -/
def loopWhile (outcome : Bool) (test body : Run Unit) : Run Unit :=
  inLoop do
    let status ← Run.repeated (fun (status : Int) => do
      match ← loopStep test with
      | some true => return .inl status
      | some false => return .inr status
      | none =>
        if ((← get).status == 0) != outcome then return .inr status
        else
          let goesOn ← loopStep body
          let status := (← get).status
          return if goesOn = some false then .inr status else .inl status) 0
    setStatus status

/-! ### Reading what to run -/

/-- How much of a script is read at once. -/
def sourceBlock : Nat := 8192

/-- Whether a command is an empty line. -/
def isNothing : Command → Bool
  | .sequence [] => true
  | _ => false

/-- Runs the commands of a script, a line at a time, and answers the status of the last one; more of the
script is read from a descriptor. What runs a command is told whether nothing is behind it. -/
def runLines (evaluate : Bool → Command → Run Unit) (source : Option Descriptor) (i : Input) : Run Int :=
  Run.repeated (fun ((i, status) : Input × Int) => do
    let s ← get
    match readLine.run { i with next := s.nextDocument } with
    | .error .incomplete =>
      let block ← match source with
        | none => pure []
        | some d =>
          match ← Run.perform (.read d sourceBlock) with
          | .ok block => pure block
          | .error _ => pure []
      return .inl ({ i with rest := i.rest ++ block, final := block.isEmpty }, status)
    | .error (.wrong line message) =>
      setLine line
      Run.fail message
    | .ok (none, _) => return .inr status
    | .ok (some c, after) =>
      modify fun s => { s with documents := after.documents ++ s.documents, nextDocument := after.next }
      let atEnd := match after.pushed with
        | some .finish => true
        | _ => false
      evaluate atEnd c
      let now ← get
      let status := if isNothing c then status else now.status
      return .inl ({ after with documents := [] }, status)) (i, 0)

/-- The place where a script that is read stands, away from the usual descriptors. -/
def awayFromStreams (d : Descriptor) : Run Descriptor := do
  match ← Run.serve (.duplicateFrom d leastKept) with
  | .ok away =>
    let _ ← Run.perform (.close d)
    return away
  | .error _ => return d

/-- The path of a script that is run in the process of another one. -/
def sourcePath (name : Bytes) : Run Bytes := do
  if name.contains 47 then return name
  else
    let s ← get
    let paths := s.searchPath.map (pathIn · name)
    let found ← paths.filterMapM fun path => do
      match ← Run.serve (.inspect path true) with
      | .ok info => return if info.kind = .file then some path else none
      | .error _ => return none
    match found with
    | path :: _ => return path
    | [] => Run.fail (name ++ ascii ": not found")

/-- Opens a script. -/
def openSource (path : Bytes) : Run Descriptor := do
  match ← Run.perform (.openFile path .reading) with
  | .ok d => awayFromStreams d
  | .error e => Run.fail (openFault false path e)

/-- The number of loops that `break` or `continue` is about. -/
def loopCount (args : List Bytes) : Run Nat := do
  let s ← get
  match args with
  | [] => return min 1 s.loops
  | arg :: _ =>
    let n ← numberOf arg
    if n = 0 then Run.fail (ascii "Illegal number: " ++ arg) else return min n s.loops

mutual

/-- Runs a command. -/
def evaluate : Nat → Place → Command → Run Unit
  | 0, _, _ => Run.fail (ascii "too many commands in one another")
  | fuel + 1, p, c => do
    if (← get).has 'n' then return
    answerSignals fuel
    match c with
    | .simple line assignments words redirections =>
      evaluateSimple fuel p line assignments words redirections
      answerSignals fuel
      checkStatus p
    | .pipeline stages =>
      let pids ← startAll fuel false p.tested stages
      setStatus (← awaitChildren pids)
      answerSignals fuel
      checkStatus p
    | .negated c =>
      evaluate fuel .test c
      modify fun s => { s with status := if s.status = 0 then 1 else 0 }
    | .both first second =>
      evaluate fuel .test first
      if (← get).status = 0 then evaluate fuel p second
    | .either first second =>
      evaluate fuel .test first
      if (← get).status != 0 then evaluate fuel p second
    | .sequence all =>
      all.dropLast.forM (evaluate fuel p.inside)
      if let some c := all.getLast? then evaluate fuel p c
    | .background line c =>
      evaluateBackground fuel line c
    | .subshell line c redirections =>
      setLine line
      let destinations ← redirections.mapM (destinationOf (outputOf fuel))
      let program : Run Unit := do
        let _ ← redirectAll false [] destinations
        evaluate fuel { p with last := true } c
      if p.last && !(← get).hasTraps then program else inChild (conclude fuel program)
      answerSignals fuel
      checkStatus p
    | .redirected line c redirections =>
      setLine line
      let destinations ← redirections.mapM (destinationOf (outputOf fuel))
      match ← Run.attempt (redirectAll true [] destinations) with
      | .ok kept =>
        let result ← Run.attempt (evaluate fuel p.inside c)
        putBack kept
        Run.resume result
      | .error .failed => setStatus 2
      | .error e => throw e
    | .conditional test yes no =>
      evaluate fuel .test test
      if (← get).status = 0 then evaluate fuel p yes
      else
        match no with
        | some c => evaluate fuel p c
        | none => setStatus 0
    | .loop outcome test body =>
      loopWhile outcome (evaluate fuel .test test) (evaluate fuel p.inside body)
    | .forEach line name words body =>
      setLine line
      let values ← words.mapM (expandFields (outputOf fuel))
      loopOver name (evaluate fuel p.inside body) values.flatten
    | .choice line word cases =>
      setLine line
      let text ← expandText (outputOf fuel) .atStart word
      setStatus 0
      let chosen ← cases.findM? fun (patterns, _) => patterns.anyM fun pattern => do
        return matchesWord (← expandMarks (outputOf fuel) pattern) text
      if let some (_, c) := chosen then evaluate fuel p c
    | .define _ name body =>
      modify fun s => { s with functions := (name, body) :: s.functions.filter (·.1 != name), status := 0 }
    answerSignals fuel

/-- Starts the stages of a pipeline. -/
def startAll : Nat → Bool → Bool → List Command → Run (List Pid)
  | 0, _, _, _ => return []
  | fuel + 1, background, tested, stages =>
    startStages background none true
      (stages.map fun c => (evaluate fuel { last := true, tested } c, conclude fuel))

/-- Starts a command in the background. -/
def evaluateBackground : Nat → Nat → Command → Run Unit
  | 0, _, _ => return
  | fuel + 1, line, c => do
    match c with
    | .pipeline stages => addWork (← startAll fuel true false stages)
    | c =>
      setLine line
      let (inner, redirections) := match c with
        | .redirected _ inner redirections => (inner, redirections)
        | c => (c, [])
      let destinations ← redirections.mapM (destinationOf (outputOf fuel))
      let pid ← startChild (conclude fuel do
        toBackground true
        let _ ← redirectAll false [] destinations
        evaluate fuel { last := true } inner)
      addWork [pid]
    setStatus 0

/-- Runs what is done when a signal has come, lowest signal first. The status is not changed by that. -/
def answerSignals : Nat → Run Unit
  | 0 => return
  | fuel + 1 => do
    if (← get).traps.any fun t => t.1 != 0 && !t.2.isEmpty then
      noteSignals
      let s ← get
      if !s.arrived.isEmpty then
        let status := s.saved.getD s.status
        set { s with saved := some status }
        let result ← Run.attempt <| (List.range' 1 64).forM fun signal => do
          let now ← get
          if now.arrived.contains signal then
            set { now with arrived := now.arrived.filter (· != signal) }
            if let some (_, action) := now.traps.find? (·.1 = signal) then
              let _ ← runText fuel {} action
              setStatus status
        modify fun t => { t with saved := s.saved }
        Run.resume result

/-- Runs commands to the end of a process, and what is done at its end. -/
def conclude : Nat → Run Unit → Scope → Prog Empty
  | 0, _, s => Prog.perform (.exit s.status)
  | fuel + 1, body, s => do
    let (_, s) ← body.run s
    let (_, s) ← (endTrap fuel).run s
    Prog.perform (.exit (s.status % 256))

/-- Runs what is done at the end of the script. -/
def endTrap : Nat → Run Unit
  | 0 => return
  | fuel + 1 => do
    let s ← get
    if let some (_, action) := s.traps.find? (·.1 = 0) then
      set { s with traps := s.traps.filter (·.1 != 0), saved := some s.status }
      match ← Run.attempt (runText fuel {} action) with
      | .error .ended | .error .failed => return
      | _ => setStatus s.status

/-- Runs the commands of a text, and answers the status of the last one. -/
def runText : Nat → Place → Bytes → Run Int
  | 0, _, _ => return 0
  | fuel + 1, p, text =>
    runLines (fun atEnd c => evaluate fuel { p with last := p.last && atEnd } c) none { rest := text }

/-- Runs the commands of a file in the process of the script, and answers the status of the last one. -/
def runSource : Nat → Bytes → Run Int
  | 0, _ => return 0
  | fuel + 1, name => do
    let path ← sourcePath name
    let d ← openSource path
    modify fun s => { s with builtin := some path }
    let start : Input := { rest := [], final := false }
    let result ← Run.attempt (runLines (fun _ c => evaluate fuel {} c) (some d) start)
    let _ ← Run.perform (.close d)
    match result with
    | .error .returned => return (← get).status
    | result => Run.resume result

/-- The output of commands. -/
def outputOf : Nat → List Command → Run Bytes
  | 0, _ => return []
  | fuel + 1, commands => do
    if commands.isEmpty then return []
    else
      match ← Run.perform .pipe with
      | .error _ => Run.fail (ascii "Pipe call failed")
      | .ok (reader, writer) =>
        let pid ← startChild (conclude fuel do
          let _ ← Run.perform (.close reader)
          toStream writer 1
          evaluate fuel { last := true } (.sequence commands))
        let _ ← Run.perform (.close writer)
        let output ← readOutput reader
        let _ ← Run.perform (.close reader)
        let status ← awaitChildren [pid]
        modify fun s => { s with outputStatus := some status }
        return output

/-- Runs a simple command. -/
def evaluateSimple : Nat → Place → Nat → List Word → List Word → List Redirection → Run Unit
  | 0, _, _, _, _, _ => return
  | fuel + 1, p, line, assignments, words, redirections => do
    setLine line
    modify fun s => { s with outputStatus := none }
    let run := outputOf fuel
    let (fields, rest) ← expandFirst run words
    let w ← if fields.isEmpty then pure { fields, rest } else
      chooseCommand run (words.length + 1) true { fields, rest }
    let name := w.fields.headD []
    let meaning := meaningOf (← get) w.front.isEmpty name
    let isBuiltin := match meaning with
      | .builtin => true
      | _ => false
    let isSpecial := isBuiltin && w.front.isEmpty && isSpecialBuiltin name
    let more ← expandArguments run (isBuiltin && takesAssignments name) w.rest
    let argv := w.fields ++ more
    let isExec := isBuiltin && name = ascii "exec"
    let destinations ← redirections.mapM (destinationOf run)
    match ← Run.attempt (redirectAll true [] destinations) with
    | .error .failed =>
      setStatus 2
      if isSpecial then throw .failed
    | .error e => throw e
    | .ok kept =>
      let hides := !argv.isEmpty && !isSpecial
      if hides then modify fun s => { s with hidden := [] :: s.hidden }
      let result ← Run.attempt do
        let settings ← assignAll run hides (hides || (isExec && 1 < argv.length)) assignments
        trace run kept (settings ++ w.front ++ argv)
        if argv.isEmpty then modify fun s => { s with status := s.outputStatus.getD 0 }
        else
          match meaning with
          | .function body => callFunction fuel p body argv.tail
          | .builtin => runBuiltin fuel p isSpecial argv
          | .program => runProgram p w.standard argv
      if isExec then dropKept kept else putBack kept
      if hides then restoreVariables
      Run.resume result

/-- Runs the body of a function with arguments of its own. -/
def callFunction : Nat → Place → Command → List Bytes → Run Unit
  | 0, _, _, _ => return
  | fuel + 1, p, body, args => do
    let s ← get
    set { s with args, loops := 0, optionPlace := (1, 0) }
    let result ← Run.attempt (evaluate fuel p.inside body)
    modify fun t => { t with args := s.args, loops := s.loops, optionPlace := s.optionPlace }
    match result with
    | .error .returned => return
    | result => Run.resume result

/-- Runs a builtin. What goes wrong in it ends the script only if it belongs to the language. -/
def runBuiltin : Nat → Place → Bool → List Bytes → Run Unit
  | 0, _, _, _ => return
  | fuel + 1, p, isSpecial, argv => do
    let outer := (← get).builtin
    modify fun s => { s with builtin := argv.head? }
    let result ← Run.attempt do
      let status ← match builtin? (argv.headD []) with
        | some builtin => builtin argv
        | none => control fuel p argv
      if ← flushWritten then setStatus status
      else
        Run.warn (argv.headD [] ++ ascii ": I/O error")
        setStatus (if status % 2 = 0 then status + 1 else status)
    let _ ← flushWritten
    modify fun s => { s with builtin := outer }
    match result with
    | .error .failed => if isSpecial then throw .failed
    | result => Run.resume result

/-- The builtins that run commands, or change which commands are run. -/
def control : Nat → Place → Builtin
  | 0, _, _ => return 0
  | fuel + 1, p, argv => do
    let args := argv.tail
    let name := (Text.decode? (argv.headD [])).getD []
    match String.ofList name with
    | "." =>
      let (_, args) ← optionsOf "" argv
      match args with
      | [] => return 0
      | path :: _ => runSource fuel path
    | "break" =>
      let n ← loopCount args
      setStatus 0
      if n = 0 then return 0 else throw (.broke n)
    | "continue" =>
      let n ← loopCount args
      setStatus 0
      if n = 0 then return 0 else throw (.continued n)
    | "command" => commandBuiltin argv
    | "eval" => if args.isEmpty then return 0 else runText fuel p.inside ([32].intercalate args)
    | "exec" =>
      let (_, args) ← optionsOf "" argv
      if args.isEmpty then return 0
      else
        become false 0 args
        return 0
    | "exit" =>
      let s ← get
      let status ← match args with
        | [] => pure (s.saved.getD s.status)
        | arg :: _ => do pure ((← numberOf arg : Nat) : Int)
      setStatus status
      throw .ended
    | "hash" => hashBuiltin argv
    | "return" =>
      if let arg :: _ := args then setStatus (← numberOf arg : Nat)
      throw .returned
    | _ => typeBuiltin argv

end

end JobShell.Script
