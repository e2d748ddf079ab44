import JobShell.Machine.Schedule
import JobShell.Shell

/-! # The world of a shell

The shell starts in an empty directory of its own, on a machine with the usual system directories. Its
standard output and standard error are collected, and the files below its directory can be listed. -/

namespace JobShell.Machine

open Utility (ascii)

/-! ### The system directories -/

/-- What the tree of a machine is built from. -/
inductive Sprout
  | directory (name : String) (mode : Nat) (owned : Bool) (children : List Sprout)
  | leaf (name : String) (content : Content) (mode : Nat)

/-- The directory of the programs. -/
def programs : Sprout :=
  .directory "bin" 0o755 false (Utility.table.map fun r => .leaf r.1 (.program (ascii r.1)) 0o755)

/-- An empty directory of the system. -/
def emptyDirectory (name : String) : Sprout := .directory name 0o755 false []

/-- A device, which everybody may read and write. -/
def device (name : String) (d : Device) : Sprout := .leaf name (.device d) 0o666

/-- What a process has open, by the numbers of its descriptors. -/
def streams : Sprout :=
  .directory "fd" 0o555 false
    ((List.range 10).map fun d => .leaf (toString d) (.device (.stream d)) 0o666)

/-- The number of the process of the shell. -/
def shellPid : Nat := 50

/-- The directories below the root; the last is where the shell starts. -/
def sprouts : List Sprout :=
  [.leaf "bin" (.link (ascii "usr/bin")) 0o777,
   emptyDirectory "boot",
   .directory "dev" 0o755 false
    [device "full" .full, device "null" .null, device "random" .zero, device "tty" .terminal,
     device "urandom" .zero, device "zero" .zero, .leaf "fd" (.link (ascii "/proc/self/fd")) 0o777,
     .leaf "stderr" (.link (ascii "/proc/self/fd/2")) 0o777,
     .leaf "stdin" (.link (ascii "/proc/self/fd/0")) 0o777,
     .leaf "stdout" (.link (ascii "/proc/self/fd/1")) 0o777],
   .directory "etc" 0o755 false
    [.leaf "hostname" (.file (ascii "localhost\n")) 0o644,
     .leaf "hosts" (.file (ascii "127.0.0.1\tlocalhost\n")) 0o644,
     .leaf "passwd" (.file (ascii "root:x:0:0:root:/root:/bin/bash\n")) 0o644,
     .leaf "shadow" (.file []) 0o640],
   emptyDirectory "home",
   .leaf "lib" (.link (ascii "usr/lib")) 0o777,
   emptyDirectory "media", emptyDirectory "mnt", emptyDirectory "opt",
   .directory "proc" 0o555 false
    [.directory "self" 0o555 false [streams],
     .directory (toString shellPid) 0o555 false [.leaf "exe" .shell 0o755]],
   .directory "root" 0o700 false [],
   emptyDirectory "run",
   .leaf "sbin" (.link (ascii "usr/sbin")) 0o777,
   emptyDirectory "srv", emptyDirectory "sys",
   .directory "usr" 0o755 false
    [programs, emptyDirectory "include", emptyDirectory "lib", emptyDirectory "local", emptyDirectory "sbin",
     emptyDirectory "share"],
   .directory "var" 0o755 false [emptyDirectory "log", .directory "tmp" 0o777 false []],
   .directory "tmp" 0o777 false [.directory "scratch" 0o755 true []]]

mutual

/-- Puts a sprout into a directory of a tree. -/
def Sprout.grow (t : Tree) (parent : NodeId) : Sprout → Tree
  | .leaf name content mode => (t.create parent (ascii name) ⟨content, mode, false⟩).2
  | .directory name mode owned children =>
    let (n, t) := t.create parent (ascii name) ⟨.directory parent [], mode, owned⟩
    growAll t n children

/-- Puts sprouts into a directory of a tree, one after the other. -/
def Sprout.growAll (t : Tree) (parent : NodeId) : List Sprout → Tree
  | [] => t
  | s :: rest => growAll (s.grow t parent) parent rest

end

/-- The tree of a machine before anything has run on it. -/
def systemTree : Tree :=
  Sprout.growAll ⟨#[⟨.directory Tree.root [], 0o755, false⟩]⟩ Tree.root sprouts

/-- The directory where the shell starts, by its absolute path. -/
def scratchPath : Bytes := ascii "/tmp/scratch"

/-! ### The shell in its world -/

/-- A file that is there when the shell starts. -/
structure GivenFile where
  path : Bytes
  /-- The bytes of a file; a directory has none. -/
  bytes : Option Bytes
  mode : Nat
deriving Repr

/-- A shell on a machine, and what was collected of its output. -/
structure World where
  system : System
  shell : Shell
  scratch : NodeId
  /-- The files that collect the standard output and the standard error. -/
  output : NodeId
  error : NodeId
  /-- How much of them was looked at. -/
  outputSeen : Nat := 0
  errorSeen : Nat := 0

namespace World

/-- Makes the directories on a path, and answers the last of them. -/
def makeDirectories (t : Tree) (here : NodeId) : List Bytes → NodeId × Tree
  | [] => (here, t)
  | name :: rest =>
    match t.enter here name with
    | .ok (some n) => makeDirectories t n rest
    | _ =>
      let (n, t) := t.create here name ⟨.directory here [], 0o755, true⟩
      makeDirectories t n rest

/-- Puts a given file into the tree. -/
def giveFile (scratch : NodeId) (t : Tree) (f : GivenFile) : Tree :=
  let path := names f.path
  match f.bytes with
  | none => (makeDirectories t scratch path).2
  | some bytes =>
    let (directory, t) := makeDirectories t scratch path.dropLast
    match path.getLast? with
    | none => t
    | some name =>
      match t.enter directory name with
      | .ok (some n) => t.update n fun node => { node with content := .file bytes, mode := f.mode }
      | _ => (t.create directory name ⟨.file bytes, f.mode, true⟩).2

/-- What the standard input of the shell is. -/
inductive Input
  | nothing
  | bytes (bytes : Bytes)
  | terminal

/-- A shell in a world with the given files. -/
def start (limits : Limits) (files : List GivenFile) (environment : List (Bytes × Bytes)) (input : Input) :
    World :=
  let scratch := (systemTree.find? Tree.root scratchPath).toOption.getD Tree.root
  let tree := files.foldl (giveFile scratch) systemTree
  let output := tree.nodes.size
  let unnamed (bytes : Bytes) : Node := ⟨.file bytes, 0o600, true⟩
  let nothing := (tree.find? Tree.root (ascii "/dev/null")).toOption.getD Tree.root
  let given := match input with
    | .bytes bytes => bytes
    | _ => []
  let tree : Tree := ⟨tree.nodes ++ #[unnamed [], unnamed [], unnamed given]⟩
  let source : Target := match input with
    | .nothing => .node nothing
    | .bytes _ => .node (output + 2)
    | .terminal => .terminal
  let shell : Process :=
    { pid := shellPid, parent := 1, group := shellPid, leader := true,
      table := [⟨0, 0, false⟩, ⟨1, 1, false⟩, ⟨2, 2, false⟩], directory := scratch, environment,
      ignored := [SignalNumber.pipe] }
  let state : State :=
    { tree
      files := #[⟨source, 0, true, false, false⟩, ⟨.node output, 0, false, true, true⟩,
        ⟨.node (output + 1), 0, false, true, true⟩]
      processes := [shell]
      terminal := match input with
        | .terminal => some { foreground := shellPid }
        | _ => none }
  { system := { state, shell := shellPid }, shell := ⟨limits, 0⟩, scratch, output, error := output + 1 }

/-- Changes the state of the machine. -/
def change (w : World) (f : State → State) : World :=
  { w with system := { w.system with state := f w.system.state } }

/-- Runs a program in the process of the shell. -/
def run {α : Type} (w : World) (p : Prog α) : Option α × World :=
  let (a, system) := w.system.run p
  (a, { w with system })

/-- Runs a program and keeps what the shell prints meanwhile. -/
def runKept {α : Type} (w : World) (p : Prog α) : Option α × Text × World :=
  let (a, w) := (w.change fun s => s.updateMemory shellPid fun m => { m with printed := some [] }).run p
  let printed := (w.system.state.memory shellPid).printed.getD []
  (a, printed, w.change fun s => s.updateMemory shellPid fun m => { m with printed := none })

/-- The bytes that a file of the world holds. -/
def held (w : World) (n : NodeId) : Bytes :=
  match w.system.state.tree.content? n with
  | some (.file bytes) => bytes
  | _ => []

/-- What has come to the standard output and the standard error since the last look. -/
def look (w : World) : Bytes × Bytes × World :=
  let output := w.held w.output
  let error := w.held w.error
  (output.drop w.outputSeen, error.drop w.errorSeen,
    { w with outputSeen := output.length, errorSeen := error.length })

/-- The jobs of the shell, newest first. -/
def jobs (w : World) : List Job :=
  ((w.system.state.memory shellPid).jobs.getD .empty).jobs

/-- The directory of the shell as seen from where it started. -/
def directory (w : World) : Bytes :=
  let s := w.system.state
  let here := ((s.process? shellPid).map (·.directory)).getD w.scratch
  let (below, path) := s.tree.pathFrom w.scratch s.tree.nodes.size here
  if below then [slash].intercalate ([dot] :: path) else s.tree.absolute here

/-- The files below the directory where the shell started. -/
def files (w : World) : List (Bytes × Node) :=
  w.system.state.tree.below w.system.state.tree.nodes.size [] w.scratch

/-- Lets the other processes run until a condition holds, for five seconds at most. -/
def await (w : World) (holds : State → Bool) : Bool × World :=
  let (held, system) := w.system.await holds
  (held, { w with system })

end World

end JobShell.Machine
