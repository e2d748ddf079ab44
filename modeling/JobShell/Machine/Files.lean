import JobShell.Kernel.Call

/-! # Files

The file tree of a machine. Its nodes are numbered; a directory names nodes and knows its parent. A path is
followed name by name, through directories that may be searched, and a link stands for the path it holds. -/

namespace JobShell.Machine

/-- The number of a node. -/
abbrev NodeId := Nat

/-- A file that stands for something else than bytes that are kept. -/
inductive Device
  /-- It is always empty and takes everything. -/
  | null
  /-- It has zeros without end. -/
  | zero
  /-- It has zeros without end, and no room. -/
  | full
  /-- The terminal of the process that opens it. -/
  | terminal
  /-- What the process that opens it has open under a descriptor. -/
  | stream (d : Descriptor)
deriving DecidableEq, Repr

/-- What a node holds. -/
inductive Content
  | file (bytes : Bytes)
  | directory (parent : NodeId) (entries : List (Bytes × NodeId))
  | link (target : Bytes)
  | fifo (pipe : Nat)
  | device (d : Device)
  /-- A program that comes with the machine. -/
  | program (name : Bytes)
  /-- The program that the shell runs. -/
  | shell
deriving Repr

/-- A node of the file tree. -/
structure Node where
  content : Content
  /-- The permission bits. -/
  mode : Nat
  /-- The node belongs to the user, and not to the system. -/
  owned : Bool
deriving Repr

namespace Node

/-- Whether the user has a permission: 4 to read, 2 to write, 1 to search or to run. -/
def allows (n : Node) (permission : Nat) : Bool :=
  ((if n.owned then n.mode / 64 else n.mode) % 8).land permission == permission

def isDirectory (n : Node) : Bool :=
  match n.content with
  | .directory _ _ => true
  | _ => false

def kind (n : Node) : FileKind :=
  match n.content with
  | .file _ | .program _ | .shell => .file
  | .directory _ _ => .directory
  | .link _ => .link
  | .fifo _ => .fifo
  | .device _ => .device

/-- How many bytes a node holds. -/
def size (n : Node) : Nat :=
  match n.content with
  | .file bytes => bytes.length
  | .link target => target.length
  | .directory _ _ => 4096
  | .program _ => 16384
  | _ => 0

end Node

/-- The nodes of a machine by their numbers. -/
structure Tree where
  nodes : Array Node
deriving Repr

/-- What a path leads to: a node, or a place in a directory where there is none yet. -/
inductive Place
  | node (n : NodeId)
  /-- With `slash`, the path says that a directory shall be there. -/
  | vacant (directory : NodeId) (name : Bytes) (slash : Bool)
deriving Repr

def slash : UInt8 := 47

def dot : UInt8 := 46

/-- The names on a path. -/
def names (path : Bytes) : List Bytes :=
  (path.splitOnP (· == slash)).filter fun n => !n.isEmpty

namespace Tree

/-- The root of the tree. -/
def root : NodeId := 0

/-- The longest name, the longest path, and how many links may be followed on one path. -/
def maxName : Nat := 255
def maxPath : Nat := 4095
def maxLinks : Nat := 40

/-- The node with a number. -/
def get? (t : Tree) (n : NodeId) : Option Node :=
  t.nodes[n]?

/-- What the node with a number holds. -/
def content? (t : Tree) (n : NodeId) : Option Content :=
  (t.get? n).map (·.content)

/-- Changes a node. -/
def update (t : Tree) (n : NodeId) (f : Node → Node) : Tree :=
  ⟨t.nodes.modify n f⟩

/-- One name looked up in a directory. -/
def enter (t : Tree) (directory : NodeId) (name : Bytes) : Except Errno (Option NodeId) :=
  match t.get? directory with
  | none => .error .noEntry
  | some n =>
    match n.content with
    | .directory parent entries =>
      if !n.allows 1 then .error .accessDenied
      else if name = [dot] then .ok (some directory)
      else if name = [dot, dot] then .ok (some parent)
      else if name.length > maxName then .error .nameTooLong
      else .ok ((entries.find? fun e => e.1 == name).map (·.2))
    | _ => .error .notDirectory

/-- Whether a name is one that every directory has. -/
def isDots (name : Bytes) : Bool :=
  name == [dot] || name == [dot, dot]

/-- Whether a path ends in a slash. -/
def endsInSlash (path : Bytes) : Bool :=
  path.getLast? == some slash

/-- Where a path is followed from. -/
def startOf (here : NodeId) (path : Bytes) : NodeId :=
  if path.head? = some slash then root else here

/-- Whether a directory is there and may be searched. -/
def mayEnter (t : Tree) (directory : NodeId) : Except Errno Unit :=
  match t.get? directory with
  | none => .error .noEntry
  | some n =>
    if !n.isDirectory then .error .notDirectory
    else if !n.allows 1 then .error .accessDenied
    else .ok ()

/-- Follows names from a directory. With `follow`, a link at the end is followed too; with `slash`, a
directory has to be at the end. What shall be created is refused if there is a slash behind its name. -/
def walk (t : Tree) (follow creates slash : Bool) :
    Nat → Nat → NodeId → List Bytes → Except Errno Place
  | 0, _, _, _ => .error .tooManyLinks
  | _, _, here, [] => .ok (.node here)
  | fuel + 1, links, here, name :: rest =>
    match t.mayEnter here with
    | .error e => .error e
    | .ok _ =>
      if rest.isEmpty && creates && slash && !isDots name then .error .isDirectory
      else
        match enter t here name with
        | .error e => .error e
        | .ok none => if rest.isEmpty then .ok (.vacant here name slash) else .error .noEntry
        | .ok (some n) =>
          match t.get? n with
          | none => .error .noEntry
          | some node =>
            match node.content with
            | .link target =>
              if rest.isEmpty && !follow && !slash then .ok (.node n)
              else if links = 0 then .error .tooManyLinks
              else
                let atEnd := if rest.isEmpty then slash || endsInSlash target else slash
                walk t follow creates atEnd fuel (links - 1) (startOf here target) (names target ++ rest)
            | .directory _ _ => walk t follow creates slash fuel links n rest
            | _ => if rest.isEmpty && !slash then .ok (.node n) else .error .notDirectory

/-- How many steps following a path may take. -/
def walkLength : Nat := maxPath * (maxLinks + 2)

/-- Follows a path as seen from a directory. -/
def find (t : Tree) (here : NodeId) (path : Bytes) (follow creates : Bool) : Except Errno Place :=
  if path.isEmpty then .error .noEntry
  else if path.length > maxPath then .error .nameTooLong
  else walk t follow creates (endsInSlash path) walkLength maxLinks (startOf here path) (names path)

/-- A place for a name: the directory, the name, and whether there is a slash behind it. -/
structure Slot where
  directory : NodeId
  name : Bytes
  slash : Bool
deriving Repr

/-- Follows a path up to its last name. The path of the root has none. -/
def slot (t : Tree) (here : NodeId) (path : Bytes) : Except Errno (Option Slot) :=
  if path.isEmpty then .error .noEntry
  else if path.length > maxPath then .error .nameTooLong
  else
    match (names path).getLast? with
    | none => .ok none
    | some name =>
      match walk t true false false walkLength maxLinks (startOf here path) (names path).dropLast with
      | .error e => .error e
      | .ok (.vacant _ _ _) => .error .noEntry
      | .ok (.node directory) =>
        match t.mayEnter directory with
        | .error e => .error e
        | .ok _ => .ok (some ⟨directory, name, endsInSlash path⟩)

/-- Follows a path to a node. -/
def find? (t : Tree) (here : NodeId) (path : Bytes) : Except Errno NodeId :=
  match t.find here path true false with
  | .error e => .error e
  | .ok (.node n) => .ok n
  | .ok (.vacant _ _ _) => .error .noEntry

/-- Changes the entries of a directory. -/
def updateEntries (t : Tree) (directory : NodeId) (f : List (Bytes × NodeId) → List (Bytes × NodeId)) :
    Tree :=
  t.update directory fun d =>
    match d.content with
    | .directory parent entries => { d with content := .directory parent (f entries) }
    | _ => d

/-- Adds a node under a name of a directory. -/
def create (t : Tree) (directory : NodeId) (name : Bytes) (node : Node) : NodeId × Tree :=
  let id := t.nodes.size
  (id, (Tree.mk (t.nodes.push node)).updateEntries directory (· ++ [(name, id)]))

/-- Takes a name out of a directory. -/
def unlink (t : Tree) (directory : NodeId) (name : Bytes) : Tree :=
  t.updateEntries directory fun entries => entries.filter (·.1 != name)

/-- The name of a node in its parent. -/
def nameOf (t : Tree) (parent n : NodeId) : Option Bytes :=
  match t.content? parent with
  | some (.directory _ entries) => (entries.find? fun e => e.2 == n).map (·.1)
  | _ => none

/-- The names that lead from the directory `top` to a directory below it, or from the root if it is not below
`top`. The flag says whether it is. -/
def pathFrom (t : Tree) (top : NodeId) : Nat → NodeId → Bool × List Bytes
  | 0, _ => (false, [])
  | fuel + 1, n =>
    if n = top then (true, [])
    else if n = root then (false, [])
    else
      match t.content? n with
      | some (.directory parent _) =>
        let (below, path) := pathFrom t top fuel parent
        (below, path ++ (t.nameOf parent n).toList)
      | _ => (false, [])

/-- The absolute path of a directory. -/
def absolute (t : Tree) (n : NodeId) : Bytes :=
  let path := (t.pathFrom root t.nodes.size n).2
  if path.isEmpty then [slash] else path.flatMap fun name => slash :: name

/-- The paths and nodes below a directory, each directory before what it holds. -/
def below (t : Tree) : Nat → Bytes → NodeId → List (Bytes × Node)
  | 0, _, _ => []
  | fuel + 1, path, n =>
    match t.content? n with
    | some (.directory _ entries) =>
      entries.flatMap fun (name, child) =>
        let path := if path.isEmpty then name else path ++ slash :: name
        match t.get? child with
        | some node => (path, node) :: below t fuel path child
        | none => []
    | _ => []

end Tree

end JobShell.Machine
