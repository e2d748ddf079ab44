import JobShell.Machine.Keyboard

/-! # What calls do on a machine

Each call of a process changes the state of the machine and has a reply. A call that cannot be replied to yet
leaves the caller waiting and is made again later; a caller may also be gone after its call. -/

namespace JobShell.Machine

/-- What comes of a call. -/
inductive Outcome (ρ : Type) where
  | reply (r : ρ) (s : State)
  /-- The caller has to wait, and then makes the call again. -/
  | wait (s : State)
  /-- The caller has ended. -/
  | gone (s : State)

namespace Outcome

/-- The reply of a call that can be refused. -/
def ok {α : Type} (a : α) (s : State) : Outcome (Except Errno α) := reply (.ok a) s

def refuse {α : Type} (e : Errno) (s : State) : Outcome (Except Errno α) := reply (.error e) s

end Outcome

namespace State

/-! ### Descriptors -/

def pipe (s : State) (pid : Nat) : Outcome (Except Errno (Descriptor × Descriptor)) :=
  let number := s.pipes.size
  let s' := { s with pipes := s.pipes.push {} }
  match s'.install pid ⟨.reader number, 0, true, false, false⟩ true with
  | .error e => .refuse e s
  | .ok (reader, s') =>
    match s'.install pid ⟨.writer number, 0, false, true, false⟩ true with
    | .error e => .refuse e s
    | .ok (writer, s') => .ok (reader, writer) s'

def close (s : State) (pid : Nat) (d : Descriptor) : Outcome (Except Errno Unit) :=
  match s.entry? pid d with
  | none => .refuse .badDescriptor s
  | some _ => .ok () (s.update pid fun p => { p with table := p.table.filter fun e => e.descriptor != d })

def duplicate (s : State) (pid : Nat) (source target : Descriptor) : Outcome (Except Errno Unit) :=
  match s.entry? pid source with
  | none => .refuse .badDescriptor s
  | some e => if source = target then .ok () s else .ok () (s.enter pid ⟨target, e.file, false⟩)

/-- Opens an end of a fifo, once there is another end or has been one since the process began to wait. -/
def openFifo (s : State) (p : Process) (number : Nat) (access : Access) : Outcome (Except Errno Descriptor) :=
  let reads := !access.writes
  let pipe := s.pipes[number]?.getD {}
  let others := if reads then pipe.writersSeen else pipe.readersSeen
  let target := if reads then Target.reader number else Target.writer number
  let finish (s : State) : Outcome (Except Errno Descriptor) :=
    match s.install p.pid ⟨target, 0, reads, !reads, false⟩ false with
    | .error e => .refuse e s
    | .ok (d, s) => .ok d (s.update p.pid fun p => { p with opening := none })
  let enter (s : State) : State :=
    s.updatePipe number fun q =>
      if reads then { q with readersSeen := q.readersSeen + 1 }
      else { q with writersSeen := q.writersSeen + 1 }
  match p.opening with
  | some o => if others != o.seen then finish s else .wait s
  | none =>
    if s.hasEnd number !reads then finish (enter s)
    else .wait ((enter s).update p.pid fun p => { p with opening := some ⟨number, reads, others⟩ })

/-- Opens what a descriptor stands for, under a descriptor of its own. -/
def openTarget (s : State) (p : Process) (target : Target) (access : Access) :
    Outcome (Except Errno Descriptor) :=
  match s.install p.pid ⟨target, 0, access.reads, access.writes, access.appends⟩ false with
  | .error e => .refuse e s
  | .ok (d, s) => .ok d s

/-- Opens a pipe again that a process has an end of. -/
def openPipe (s : State) (p : Process) (number : Nat) (access : Access) : Outcome (Except Errno Descriptor) :=
  s.openTarget p (if access.writes then .writer number else .reader number) access

/-- Whether a node has the permissions that an access needs. -/
def permits (node : Node) (access : Access) : Bool :=
  (!access.reads || node.allows 4) && (!access.writes || node.allows 2)

/-- Opens a node that is there and stands for itself. -/
def openPlain (s : State) (p : Process) (n : NodeId) (access : Access) : Outcome (Except Errno Descriptor) :=
  match s.tree.get? n with
  | none => .refuse .noEntry s
  | some node =>
    if node.isDirectory && (access.writes || access.creates.isSome) then .refuse .isDirectory s
    else if !permits node access then .refuse .accessDenied s
    else
      match node.content with
      | .fifo number => s.openFifo p number access
      | .device .terminal =>
        if s.terminal.isSome then s.openTarget p .terminal access else .refuse .noDevice s
      | .file _ =>
        let emptied :=
          if access.empties then
            { s with tree := s.tree.update n fun node => { node with content := .file [] } }
          else s
        emptied.openTarget p (.node n) access
      | _ => s.openTarget p (.node n) access

/-- Opens a node that is there. -/
def openNode (s : State) (p : Process) (n : NodeId) (access : Access) : Outcome (Except Errno Descriptor) :=
  match s.tree.content? n with
  | some (.device (.stream d)) =>
    match s.file? p.pid d with
    | none => .refuse .noEntry s
    | some (_, f) =>
      match f.target with
      | .node n => s.openPlain p n access
      | .reader number | .writer number => s.openPipe p number access
      | .terminal => s.openTarget p .terminal access
  | _ => s.openPlain p n access

/-- Opens a file that is not there yet. -/
def openNew (s : State) (p : Process) (directory : NodeId) (name : Bytes) (mode : Nat) (access : Access) :
    Outcome (Except Errno Descriptor) :=
  if !(s.tree.get? directory).any (·.allows 2) then .refuse .accessDenied s
  else
    let (n, tree) := s.tree.create directory name ⟨.file [], mode - mode.land p.mask, true⟩
    match { s with tree }.openTarget p (.node n) access with
    | .reply (.error e) _ => .refuse e s
    | outcome => outcome

def openFile (s : State) (pid : Nat) (path : Bytes) (access : Access) : Outcome (Except Errno Descriptor) :=
  match s.process? pid with
  | none => .gone s
  | some p =>
    if (free? p).isNone then .refuse .tooManyOpen s
    else
      match s.tree.find p.directory path true access.creates.isSome with
      | .error e => .refuse e s
      | .ok (.node n) => if access.exclusive then .refuse .fileExists s else s.openNode p n access
      | .ok (.vacant directory name slash) =>
        match access.creates with
        | none => .refuse .noEntry s
        | some mode => if slash then .refuse .isDirectory s else s.openNew p directory name mode access

/-- Copies a descriptor to a free one from `least` on. -/
def duplicateFrom (s : State) (pid : Nat) (d least : Descriptor) : Outcome (Except Errno Descriptor) :=
  match s.process? pid, s.entry? pid d with
  | none, _ => .gone s
  | _, none => .refuse .badDescriptor s
  | some p, some e =>
    match freeAbove? p least with
    | none => .refuse .invalid s
    | some free => .ok free (s.enter pid ⟨free, e.file, true⟩)

/-! ### Reading and writing -/

/-- Reads from a terminal: a line that was entered, for a process in the foreground. -/
def readTerminal (s : State) (p : Process) (limit : Nat) : Outcome (Except Errno Bytes) :=
  match s.terminal with
  | none => .refuse .inputOutput s
  | some t =>
    if t.foreground != p.group then
      if p.ignored.contains SignalNumber.terminalInput || p.blocked.contains SignalNumber.terminalInput ||
          s.isOrphaned p.group then
        .refuse .inputOutput s
      else .wait (s.postGroup p.group SignalNumber.terminalInput)
    else
      match t.entered with
      | [] => .wait s
      | line :: rest =>
        let left := { line with bytes := line.bytes.drop limit }
        let entered := if line.bytes.length > limit then left :: rest else rest
        .ok (line.bytes.take limit) ({ s with terminal := some { t with entered } }.pressWaiting)

def read (s : State) (pid : Nat) (d : Descriptor) (limit : Nat) : Outcome (Except Errno Bytes) :=
  match s.process? pid, s.file? pid d with
  | none, _ => .gone s
  | _, none => .refuse .badDescriptor s
  | some p, some (number, f) =>
    if !f.reads then .refuse .badDescriptor s
    else
      match f.target with
      | .terminal => s.readTerminal p limit
      | .writer _ => .refuse .badDescriptor s
      | .reader pipe =>
        match s.pipes[pipe]? with
        | none => .ok [] s
        | some q =>
          if q.bytes.isEmpty then if s.hasEnd pipe false then .wait s else .ok [] s
          else .ok (q.bytes.take limit) (s.updatePipe pipe fun q => { q with bytes := q.bytes.drop limit })
      | .node n =>
        match s.tree.content? n with
        | some (.file bytes) =>
          let block := (bytes.drop f.offset).take limit
          .ok block
            { s with files := s.files.modify number fun f => { f with offset := f.offset + block.length } }
        | some (.directory _ _) => .refuse .isDirectory s
        | some (.device .zero) | some (.device .full) => .ok (List.replicate limit 0) s
        | _ => .ok [] s

/-- Bytes with others put over them from an offset on. -/
def overwrite (old : Bytes) (offset : Nat) (new : Bytes) : Bytes :=
  old.take offset ++ List.replicate (offset - old.length) 0 ++ new ++ old.drop (offset + new.length)

def write (s : State) (pid : Nat) (d : Descriptor) (bytes : Bytes) : Outcome (Except Errno Nat) :=
  match s.process? pid, s.file? pid d with
  | none, _ => .gone s
  | _, none => .refuse .badDescriptor s
  | some _, some (number, f) =>
    if !f.writes then .refuse .badDescriptor s
    else
      match f.target with
      | .terminal => .ok bytes.length s
      | .reader _ => .refuse .badDescriptor s
      | .writer pipe =>
        if !s.hasEnd pipe true then
          let s := s.post pid SignalNumber.pipe
          if (s.process? pid).all (·.ended) then .gone s else .refuse .brokenPipe s
        else
          let room := Pipe.capacity - ((s.pipes[pipe]?.map (·.bytes.length)).getD 0)
          if room = 0 || (bytes.length ≤ Pipe.atomic && room < bytes.length) then .wait s
          else
            let taken := bytes.take room
            .ok taken.length (s.updatePipe pipe fun q => { q with bytes := q.bytes ++ taken })
      | .node n =>
        match s.tree.content? n with
        | some (.file old) =>
          let offset := if f.appends then old.length else f.offset
          let tree := s.tree.update n fun node => { node with content := .file (overwrite old offset bytes) }
          let files := s.files.modify number fun f => { f with offset := offset + bytes.length }
          .ok bytes.length { s with tree, files }
        | some (.device .full) => if bytes.isEmpty then .ok 0 s else .refuse .noSpace s
        | _ => .ok bytes.length s

/-- Sets the place where an open file is read or written next. -/
def seek (s : State) (pid : Nat) (d : Descriptor) (offset : Nat) : Outcome (Except Errno Unit) :=
  match s.file? pid d with
  | none => .refuse .badDescriptor s
  | some (number, f) =>
    match f.target with
    | .node _ => .ok () { s with files := s.files.modify number fun f => { f with offset } }
    | _ => .refuse .notSeekable s

/-- Makes an open file as long as asked for. -/
def resize (s : State) (pid : Nat) (d : Descriptor) (size : Nat) : Outcome (Except Errno Unit) :=
  match s.file? pid d with
  | none => .refuse .badDescriptor s
  | some (_, f) =>
    match f.writes, f.target with
    | true, .node n =>
      .ok () { s with
        tree := s.tree.update n fun node =>
          match node.content with
          | .file bytes =>
            { node with content := .file (bytes.take size ++ List.replicate (size - bytes.length) 0) }
          | _ => node }
    | _, _ => .refuse .invalid s

/-- Writes out what a shell has printed. A closed standard output takes everything, and what any other does not take
stays to be written. -/
def writeOut (pid : Nat) : Nat → State → Outcome (Except Errno Unit)
  | 0, s => .ok () s
  | fuel + 1, s =>
    let bytes := (s.memory pid).unwritten
    let printed (s : State) : State := s.updateMemory pid fun m => { m with printing := false }
    if bytes.isEmpty then .ok () (printed s)
    else
      match s.write pid 1 bytes with
      | .reply (.ok n) s => writeOut pid fuel (s.updateMemory pid fun m => { m with unwritten := m.unwritten.drop n })
      | .reply (.error e) s =>
        if e = .badDescriptor then .ok () ((printed s).updateMemory pid fun m => { m with unwritten := [] })
        else .refuse e (printed s)
      | .wait s => .wait s
      | .gone s => .gone s

/-- Writes out what the output of a shell has kept back, unless all of its output is kept. -/
def flush (s : State) (pid : Nat) : Outcome (Except Errno Unit) :=
  let m := s.memory pid
  if m.printed.isSome then .ok () s else writeOut pid (m.unwritten.length + 1) s

/-- Writes to the output of a shell, which is kept or goes to the standard output. What was kept back goes first. -/
def print (s : State) (pid : Nat) (text : Text) : Outcome (Except Errno Unit) :=
  let m := s.memory pid
  match m.printed with
  | some before => .ok () (s.updateMemory pid fun m => { m with printed := some (before ++ text) })
  | none =>
    if m.printing then s.flush pid
    else
      match s.flush pid with
      | .reply (.ok _) s =>
        (s.updateMemory pid fun m => { m with unwritten := text.encode, printing := true }).flush pid
      | outcome => outcome

/-! ### Files -/

def setMode (s : State) (pid : Nat) (d : Descriptor) (mode : Nat) : Outcome (Except Errno Unit) :=
  match s.file? pid d with
  | some (_, ⟨.node n, _, _, _, _⟩) =>
    if (s.tree.get? n).any (·.owned) then
      .ok () { s with tree := s.tree.update n fun node => { node with mode } }
    else .refuse .notPermitted s
  | some _ => .ok () s
  | none => .refuse .badDescriptor s

/-- What the kernel knows about a node. -/
def nodeInfo (s : State) (n : NodeId) (node : Node) : FileInfo :=
  let allowed := [4, 2, 1].foldl (fun all bit => if node.allows bit then all + bit else all) 0
  let names := s.tree.nodes.foldl (fun count node =>
    match node.content with
    | .directory _ entries => count + entries.countP fun e => e.2 == n
    | _ => count) 0
  { node := some n, kind := node.kind, mode := node.mode, allowed, owned := node.owned, size := node.size,
    names }

/-- What the kernel knows about an open file. -/
def targetInfo (s : State) (f : OpenFile) : Except Errno FileInfo :=
  match f.target with
  | .node n =>
    match s.tree.get? n with
    | some node => .ok { s.nodeInfo n node with offset := f.offset, appends := f.appends }
    | none => .error .noEntry
  | .reader _ | .writer _ => .ok { node := none, kind := .fifo, mode := 0o600, allowed := 6, size := 0 }
  | .terminal => .ok { node := none, kind := .device, mode := 0o620, allowed := 6, size := 0 }

def describe (s : State) (pid : Nat) (d : Descriptor) : Outcome (Except Errno FileInfo) :=
  match s.file? pid d with
  | none => .refuse .badDescriptor s
  | some (_, f) => .reply (s.targetInfo f) s

def inspect (s : State) (pid : Nat) (path : Bytes) (follow : Bool) : Outcome (Except Errno FileInfo) :=
  match s.process? pid with
  | none => .gone s
  | some p =>
    match s.tree.find p.directory path follow false with
    | .error e => .refuse e s
    | .ok (.vacant _ _ _) => .refuse .noEntry s
    | .ok (.node n) =>
      match s.tree.get? n with
      | none => .refuse .noEntry s
      | some node =>
        match node.content with
        | .device (.stream d) =>
          match s.file? pid d with
          | none => .refuse .noEntry s
          | some (_, f) => .reply (s.targetInfo f) s
        | _ => .ok (s.nodeInfo n node) s

def fileKind (s : State) (pid : Nat) (path : Bytes) : Outcome (Except Errno FileKind) :=
  match s.inspect pid path true with
  | .reply (.ok info) s => .ok info.kind s
  | .reply (.error e) s => .refuse e s
  | .wait s => .wait s
  | .gone s => .gone s

def readLink (s : State) (pid : Nat) (path : Bytes) : Outcome (Except Errno Bytes) :=
  match s.process? pid with
  | none => .gone s
  | some p =>
    match s.tree.find p.directory path false false with
    | .error e => .refuse e s
    | .ok (.vacant _ _ _) => .refuse .noEntry s
    | .ok (.node n) =>
      match s.tree.content? n with
      | some (.link target) => .ok target s
      | _ => .refuse .invalid s

def changeMode (s : State) (pid : Nat) (path : Bytes) (mode : Nat) : Outcome (Except Errno Unit) :=
  match s.process? pid with
  | none => .gone s
  | some p =>
    match s.tree.find? p.directory path with
    | .error e => .refuse e s
    | .ok n =>
      if (s.tree.get? n).any (·.owned) then
        .ok () { s with tree := s.tree.update n fun node => { node with mode } }
      else .refuse .notPermitted s

def changeDirectory (s : State) (pid : Nat) (path : Bytes) : Outcome (Except Errno Unit) :=
  match s.process? pid with
  | none => .gone s
  | some p =>
    match s.tree.find? p.directory path with
    | .error e => .refuse e s
    | .ok n =>
      match s.tree.get? n with
      | none => .refuse .noEntry s
      | some node =>
        if !node.isDirectory then .refuse .notDirectory s
        else if !node.allows 1 then .refuse .accessDenied s
        else .ok () (s.update pid fun p => { p with directory := n })

/-- What is under a name of a directory; the names that every directory has are no places for a node. -/
def lookUp (s : State) (slot : Tree.Slot) : Except Errno (Option NodeId) :=
  s.tree.enter slot.directory slot.name

/-- Whether the names in a directory may be changed. -/
def mayChange (s : State) (directory : NodeId) : Bool :=
  (s.tree.get? directory).any (·.allows 2)

/-- Makes a node under a path where there is none yet. -/
def make (s : State) (pid : Nat) (path : Bytes) (directoryWanted : Bool) (node : NodeId → Node) (s' : State) :
    Outcome (Except Errno Unit) :=
  match s.process? pid with
  | none => .gone s
  | some p =>
    match s.tree.slot p.directory path with
    | .error e => .refuse e s
    | .ok none => .refuse .fileExists s
    | .ok (some slot) =>
      match s.lookUp slot with
      | .error e => .refuse e s
      | .ok (some _) => .refuse .fileExists s
      | .ok none =>
        if slot.slash && !directoryWanted then .refuse .noEntry s
        else if !s.mayChange slot.directory then .refuse .accessDenied s
        else
          let new := node slot.directory
          let masked := match new.content with
            | .link _ => new
            | _ => { new with mode := new.mode - new.mode.land p.mask }
          .ok () { s' with tree := (s.tree.create slot.directory slot.name masked).2 }

def remove (s : State) (pid : Nat) (path : Bytes) : Outcome (Except Errno Unit) :=
  match s.process? pid with
  | none => .gone s
  | some p =>
    match s.tree.slot p.directory path with
    | .error e => .refuse e s
    | .ok none => .refuse .isDirectory s
    | .ok (some slot) =>
      if Tree.isDots slot.name then .refuse .isDirectory s
      else
        match s.lookUp slot with
        | .error e => .refuse e s
        | .ok none => .refuse .noEntry s
        | .ok (some n) =>
          let isDirectory := (s.tree.get? n).any (·.isDirectory)
          if slot.slash && !isDirectory then .refuse .notDirectory s
          else if !s.mayChange slot.directory then .refuse .accessDenied s
          else if isDirectory then .refuse .isDirectory s
          else .ok () { s with tree := s.tree.unlink slot.directory slot.name }

def removeDirectory (s : State) (pid : Nat) (path : Bytes) : Outcome (Except Errno Unit) :=
  match s.process? pid with
  | none => .gone s
  | some p =>
    match s.tree.slot p.directory path with
    | .error e => .refuse e s
    | .ok none => .refuse .busy s
    | .ok (some slot) =>
      if slot.name = [dot] then .refuse .invalid s
      else if Tree.isDots slot.name then .refuse .notEmpty s
      else
        match s.lookUp slot with
        | .error e => .refuse e s
        | .ok none => .refuse .noEntry s
        | .ok (some n) =>
          if !s.mayChange slot.directory then .refuse .accessDenied s
          else
            match s.tree.content? n with
            | some (.directory _ []) => .ok () { s with tree := s.tree.unlink slot.directory slot.name }
            | some (.directory _ _) => .refuse .notEmpty s
            | _ => .refuse .notDirectory s

/-- Whether a directory is below another one, or is that one. -/
def isBelow (s : State) (top n : NodeId) : Bool :=
  (s.tree.pathFrom top s.tree.nodes.size n).1

/-- Why a node may not take the place of another. -/
def replaceError? (s : State) (new old : NodeId) : Option Errno :=
  match s.tree.content? new, s.tree.content? old with
  | some (.directory _ _), some (.directory _ []) => none
  | some (.directory _ _), some (.directory _ _) => some .notEmpty
  | some (.directory _ _), _ => some .notDirectory
  | _, some (.directory _ _) => some .isDirectory
  | _, _ => none

/-- Puts a node under another name, in the place of what is there. -/
def moveNode (s : State) (source target : Tree.Slot) (n : NodeId) : State :=
  let tree := (s.tree.unlink source.directory source.name).unlink target.directory target.name
  let tree := tree.updateEntries target.directory (· ++ [(target.name, n)])
  let tree := tree.update n fun node =>
    match node.content with
    | .directory _ entries => { node with content := .directory target.directory entries }
    | _ => node
  { s with tree }

def rename (s : State) (pid : Nat) (source target : Bytes) : Outcome (Except Errno Unit) :=
  match s.process? pid with
  | none => .gone s
  | some p =>
    match s.tree.slot p.directory source, s.tree.slot p.directory target with
    | .error e, _ => .refuse e s
    | _, .error e => .refuse e s
    | .ok none, _ | _, .ok none => .refuse .busy s
    | .ok (some source), .ok (some target) =>
      if Tree.isDots source.name || Tree.isDots target.name then .refuse .busy s
      else
        match s.lookUp source, s.lookUp target with
        | .error e, _ => .refuse e s
        | _, .error e => .refuse e s
        | .ok none, _ => .refuse .noEntry s
        | .ok (some n), .ok there =>
          let isDirectory := (s.tree.get? n).any (·.isDirectory)
          if (source.slash || target.slash) && !isDirectory then .refuse .notDirectory s
          else if isDirectory && s.isBelow n target.directory then .refuse .invalid s
          else if !s.mayChange source.directory || !s.mayChange target.directory then
            .refuse .accessDenied s
          else
            match there with
            | none => .ok () (s.moveNode source target n)
            | some old =>
              if old = n then .ok () s
              else
                match s.replaceError? n old with
                | some e => .refuse e s
                | none => .ok () (s.moveNode source target n)

/-- Gives a file another name. -/
def addName (s : State) (pid : Nat) (source path : Bytes) : Outcome (Except Errno Unit) :=
  match s.process? pid with
  | none => .gone s
  | some p =>
    match s.tree.find p.directory source false false, s.tree.slot p.directory path with
    | .error e, _ => .refuse e s
    | .ok (.vacant _ _ _), _ => .refuse .noEntry s
    | _, .error e => .refuse e s
    | _, .ok none => .refuse .fileExists s
    | .ok (.node n), .ok (some slot) =>
      match s.lookUp slot with
      | .error e => .refuse e s
      | .ok (some _) => .refuse .fileExists s
      | .ok none =>
        if slot.slash then .refuse .noEntry s
        else if !s.mayChange slot.directory then .refuse .accessDenied s
        else if (s.tree.get? n).any (·.isDirectory) then .refuse .notPermitted s
        else
          .ok () { s with tree := s.tree.updateEntries slot.directory (· ++ [(slot.name, n)]) }

def list (s : State) (pid : Nat) (path : Bytes) : Outcome (Except Errno (List Bytes)) :=
  match s.process? pid with
  | none => .gone s
  | some p =>
    match s.tree.find? p.directory path with
    | .error e => .refuse e s
    | .ok n =>
      match s.tree.get? n with
      | some node =>
        match node.content with
        | .directory _ entries => if node.allows 4 then .ok (entries.map (·.1)) s else .refuse .accessDenied s
        | _ => .refuse .notDirectory s
      | none => .refuse .noEntry s

/-! ### Processes -/

def fork (s : State) (pid : Nat) : Outcome (Except Errno Forked) :=
  match s.process? pid, s.freePid? State.pidLimit s.nextPid with
  | none, _ => .gone s
  | _, none => .refuse .tryAgain s
  | some p, some number =>
    let child := { p with
      pid := number, parent := pid, leader := false, pending := [], noted := [], executed := false,
      opening := none, alarm := none }
    .ok (.parent number) { s with processes := s.processes ++ [child], nextPid := number + 1 }

def setGroup (s : State) (caller : Nat) (pid group : Pid) : Outcome (Except Errno Unit) :=
  if pid < 0 || group < 0 then .refuse (if pid < 0 then .noProcess else .invalid) s
  else
    let target := if pid = 0 then caller else pid.toNat
    let group := if group = 0 then target else group.toNat
    match s.process? target with
    | none => .refuse .noProcess s
    | some p =>
      if p.pid != caller && p.parent != caller then .refuse .noProcess s
      else if p.pid != caller && p.executed then .refuse .accessDenied s
      else if p.leader then .refuse .notPermitted s
      else if group != target && !s.hasGroup group then .refuse .notPermitted s
      else .ok () (s.update target fun p => { p with group })

def kill (s : State) (caller : Nat) (pid : Pid) (signal : Nat) : Outcome (Except Errno Unit) :=
  if signal > 64 then .refuse .invalid s
  else
    let after := if pid > 0 then s.post pid.toNat signal
      else match s.process? caller with
        | some p => s.postGroup (if pid = 0 then p.group else pid.natAbs) signal
        | none => s
    let found := if pid > 0 then (s.process? pid.toNat).isSome else pid = 0 || s.hasGroup pid.natAbs
    if !found then .refuse .noProcess s
    else if (after.process? caller).all (·.ended) then .gone after
    else .ok () after

def killGroup (s : State) (caller : Nat) (group : Pid) (signal : Nat) : Outcome (Except Errno Unit) :=
  if group < 0 then .refuse .invalid s
  else if group = 1 then .ok () s
  else s.kill caller (-group) signal

/-- The children that a wait is about: one, those of a group, or all. -/
def waitedFor (s : State) (p : Process) (pid : Pid) : List Process :=
  s.processes.filter fun q => q.parent == p.pid &&
    if pid > 0 then (q.pid : Int) == pid
    else if pid = -1 then true
    else if pid = 0 then q.group == p.group
    else q.group == pid.natAbs

def wait (s : State) (caller : Nat) (pid : Pid) (block : Bool) : Outcome (Except Errno Report) :=
  match s.process? caller with
  | none => .gone s
  | some p =>
    if pid = -2147483648 then .refuse .noProcess s
    else
      let children := s.waitedFor p pid
      match children.find? (·.ended) with
      | some child =>
        let collected := { s with processes := s.processes.filter fun q => q.pid != child.pid }
        match child.phase with
        | .ended (.exited code) => .ok (.exited child.pid code) collected
        | .ended (.signaled signal) => .ok (.signaled child.pid signal false) collected
        | _ => .ok .alive s
      | none =>
        if children.isEmpty then .refuse .noChild s
        else if block then if p.noted.isEmpty then .wait s else .refuse .interrupted s
        else .ok .alive s

def sleep (s : State) (pid duration : Nat) : Outcome Unit :=
  match s.process? pid with
  | none => .gone s
  | some p =>
    match p.alarm with
    | none => .wait (s.update pid fun p => { p with alarm := some (s.clock + duration) })
    | some time =>
      if time ≤ s.clock then .reply () (s.update pid fun p => { p with alarm := none }) else .wait s

def setForeground (s : State) (pid : Nat) (d : Descriptor) (group : Pid) : Outcome (Except Errno Unit) :=
  match s.process? pid, s.file? pid d with
  | none, _ => .gone s
  | _, none => .refuse .badDescriptor s
  | some _, some (_, f) =>
    match f.target, s.terminal with
    | .terminal, some t =>
      if group < 0 then .refuse .invalid s
      else if !s.hasGroup group.toNat then .refuse .noProcess s
      else .ok () { s with terminal := some { t with foreground := group.toNat } }
    | _, _ => .refuse .notTerminal s

/-! ### The threads of a shell -/

def acquireJobs (s : State) (pid : Nat) : Outcome JobTable :=
  match (s.memory pid).jobs with
  | some jobs => .reply jobs (s.updateMemory pid fun m => { m with jobs := none })
  | none => .wait s

def releaseJobs (s : State) (pid : Nat) (jobs : JobTable) : State :=
  s.updateMemory pid fun m => { m with jobs := some jobs }

/-- Changes the notices of a shell. -/
def updateNotices (s : State) (pid : Nat) (f : Notices → Notices) : State :=
  s.updateMemory pid fun m => { m with notices := f m.notices }

def awaitNotice (s : State) (pid : Nat) : Outcome Notice :=
  let n := (s.memory pid).notices
  if n.closed then .reply .closed s
  else if n.interrupt then .reply .interrupt (s.updateNotices pid fun n => { n with interrupt := false })
  else if n.childChanged then .reply .childChanged (s.updateNotices pid fun n => { n with childChanged := false })
  else .wait s

/-- Makes a shell catch the signals that the reaper looks after. -/
def startReaper (s : State) (pid : Nat) : State :=
  (s.update pid fun p => { p with caught := [SignalNumber.child, SignalNumber.interrupt] }).updateNotices pid
    fun _ => { watched := true }

/-- Tells the reaper that there are no more notices; the reply comes when it is gone. -/
def stopReaper (s : State) (pid : Nat) : Outcome Unit :=
  if (s.memory pid).notices.watched then .wait (s.updateNotices pid fun n => { n with closed := true })
  else .reply () s

/-! ### All calls -/

/-- How a process reacts to a signal. -/
def reaction (p : Process) (signal : Nat) : Reaction :=
  if p.ignored.contains signal then .ignore
  else if p.noting.contains signal then .note
  else .default

/-- Changes how a process reacts to a signal. -/
def react (s : State) (pid signal : Nat) (reaction : Reaction) : State :=
  s.update pid fun p =>
    let ignored := p.ignored.filter (· != signal)
    let noting := p.noting.filter (· != signal)
    match reaction with
    | .default => { p with ignored, noting }
    | .ignore => { p with ignored := signal :: ignored, noting }
    | .note => { p with ignored, noting := signal :: noting }

/-- Sets the limit of descriptors of a process; 0 stands for the caller. -/
def limitDescriptors (s : State) (caller : Nat) (pid : Pid) (limit : Nat) : Outcome (Except Errno Unit) :=
  let target := if pid = 0 then caller else pid.toNat
  match s.process? target with
  | none => .refuse .noProcess s
  | some _ => .ok () (s.update target fun p => { p with limit })

/-- What the services do. -/
def serve (s : State) (pid : Nat) : (c : Service) → Outcome c.Reply
  | .sleep duration => s.sleep pid duration
  | .makeDirectory path mode =>
    s.make pid path true (fun parent => ⟨.directory parent [], mode, true⟩) s
  | .makeFifo path mode =>
    s.make pid path false (fun _ => ⟨.fifo s.pipes.size, mode, true⟩) { s with pipes := s.pipes.push {} }
  | .makeLink target path =>
    if target.isEmpty then .refuse .noEntry s
    else s.make pid path false (fun _ => ⟨.link target, 0o777, true⟩) s
  | .addName source path => s.addName pid source path
  | .rename source target => s.rename pid source target
  | .remove path => s.remove pid path
  | .removeDirectory path => s.removeDirectory pid path
  | .readLink path => s.readLink pid path
  | .inspect path follow => s.inspect pid path follow
  | .describe d => s.describe pid d
  | .seek d offset => s.seek pid d offset
  | .resize d size => s.resize pid d size
  | .changeMode path mode => s.changeMode pid path mode
  | .list path => s.list pid path
  | .workingDirectory =>
    match s.process? pid with
    | none => .gone s
    | some p => .ok (s.tree.absolute p.directory) s
  | .duplicateFrom d least => s.duplicateFrom pid d least
  | .setEnvironment new => .reply () (s.update pid fun p => { p with environment := new })
  | .setMask mask =>
    match s.process? pid with
    | none => .gone s
    | some p => .reply p.mask (s.update pid fun p => { p with mask })
  | .react signal reaction => .reply () (s.react pid signal reaction)
  | .reaction signal => .reply (((s.process? pid).map (reaction · signal)).getD .default) s
  | .noted =>
    match s.process? pid with
    | none => .gone s
    | some p => .reply p.noted (s.update pid fun p => { p with noted := [] })
  | .parent => .reply (((s.process? pid).map (·.parent)).getD 0) s
  | .limitDescriptors target limit => s.limitDescriptors pid target limit

/-- What the calls do, but for the program that a process becomes and for the threads that there are. -/
def perform (s : State) (pid : Nat) : (c : Call) → Outcome c.Reply
  | .pipe => s.pipe pid
  | .openFile path access => s.openFile pid path access
  | .close d => s.close pid d
  | .duplicate source target => s.duplicate pid source target
  | .read d limit => s.read pid d limit
  | .write d bytes => s.write pid d bytes
  | .setMode d mode => s.setMode pid d mode
  | .fileKind path => s.fileKind pid path
  | .changeDirectory path => s.changeDirectory pid path
  | .isTerminal d => .reply ((s.file? pid d).any fun f => f.2.target == .terminal) s
  | .setForeground d group => s.setForeground pid d group
  | .fork => s.fork pid
  | .execute _ | .executeFile _ _ => .reply .noEntry s
  | .exit code => .gone (s.finish pid (.exited (code % 256)))
  | .ownPid => .reply pid s
  | .ownGroup => .reply (((s.process? pid).map (·.group)).getD 0) s
  | .setGroup target group => s.setGroup pid target group
  | .defaultSignal signal =>
    .reply () (s.update pid fun p => { p with
      ignored := p.ignored.filter (· != signal.number), caught := p.caught.filter (· != signal.number) })
  | .blockSignal signal true =>
    .reply () (s.update pid fun p => { p with blocked := signal.number :: p.blocked })
  | .blockSignal signal false =>
    let s := s.update pid fun p => { p with blocked := p.blocked.filter (· != signal.number) }
    .reply () (s.deliverPending pid)
  | .unblockSignals => .reply () ((s.update pid fun p => { p with blocked := [] }).deliverPending pid)
  | .kill target signal => s.kill pid target signal
  | .killGroup group signal => s.killGroup pid group signal
  | .wait target block => s.wait pid target block
  | .environment => .reply (((s.process? pid).map (·.environment)).getD []) s
  | .service c => s.serve pid c
  | .print text => s.print pid text
  | .flush => s.flush pid
  | .acquireJobs => s.acquireJobs pid
  | .releaseJobs jobs => .reply () (s.releaseJobs pid jobs)
  | .startReaper => .reply () (s.startReaper pid)
  | .stopReaper => s.stopReaper pid
  | .awaitNotice => s.awaitNotice pid

end State

end JobShell.Machine
