import JobShell.Job.Table
import JobShell.Kernel.Errno
import JobShell.Kernel.Signal
import JobShell.Text.Utf8

/-! # Calls

What a program can ask for. Most calls go to the kernel: descriptors, processes, signals, files. Some go to
what the threads of the shell share: its job table, which one thread has at a time, its output, and the
notices by which it learns of signals. Each call has its own type of reply; a call that the kernel can refuse
replies with an error number instead. -/

namespace JobShell

/-- The number under which a process holds an open file. -/
abbrev Descriptor := Nat

/-- The number of a process or of a process group. -/
abbrev Pid := Int

/-- How a file is opened. -/
structure Access where
  reads : Bool
  writes : Bool
  /-- The permissions that a file gets if it is created. -/
  creates : Option Nat := none
  /-- What the file held before is dropped. -/
  empties : Bool := false
  /-- Everything is written at the end. -/
  appends : Bool := false
  /-- There must be no file yet. -/
  exclusive : Bool := false
deriving DecidableEq, Repr

namespace Access

/-- For reading a file that is there. -/
def reading : Access := { reads := true, writes := false }

/-- For writing a file anew. -/
def replacing (mode : Nat) : Access :=
  { reads := false, writes := true, creates := some mode, empties := true }

/-- For writing at the end of a file. -/
def appending (mode : Nat) : Access :=
  { reads := false, writes := true, creates := some mode, appends := true }

/-- For making sure that a file is there. -/
def touching (mode : Nat) : Access := { reads := false, writes := true, creates := some mode }

/-- For reading and writing a file. -/
def both (mode : Nat) : Access := { reads := true, writes := true, creates := some mode }

/-- For writing a file that is not there yet. -/
def creating (mode : Nat) : Access :=
  { reads := false, writes := true, creates := some mode, exclusive := true }

end Access

/-- The two processes that a fork returns in. -/
inductive Forked
  | child
  | parent (child : Pid)
deriving DecidableEq, Repr

/-- What the kernel says about a child that was waited for. -/
inductive Report
  /-- No child has changed. -/
  | alive
  | exited (pid : Pid) (code : Int)
  /-- The signal is a number, as not every signal has a name. -/
  | signaled (pid : Pid) (signal : Nat) (core : Bool)
  | stopped (pid : Pid) (signal : Nat)
  | continued (pid : Pid)
deriving DecidableEq, Repr

/-- What wakes the thread that looks after signals. -/
inductive Notice
  | childChanged
  | interrupt
  /-- There will be no more notices. -/
  | closed
deriving DecidableEq, Repr

/-- What a path leads to. -/
inductive FileKind
  | file
  | directory
  | link
  | fifo
  | device
deriving DecidableEq, Repr

/-- What the kernel knows about a file. -/
structure FileInfo where
  /-- Two names of the same file have the same number here; pipes and terminals have none. -/
  node : Option Nat
  kind : FileKind
  /-- The permission bits. -/
  mode : Nat
  /-- What the user may do: 4 to read, 2 to write, 1 to search or to run. -/
  allowed : Nat
  /-- The file belongs to the user. -/
  owned : Bool := true
  /-- How many bytes the file holds; a link holds the path that it stands for. -/
  size : Nat
  /-- Where an open file is read or written next. -/
  offset : Nat := 0
  /-- Everything that is written to the open file goes to its end. -/
  appends : Bool := false
  /-- How many names the file has. -/
  names : Nat := 1
deriving DecidableEq, Repr

/-- What a process does about a signal. -/
inductive Reaction
  | default
  | ignore
  /-- The signal is noted, to be asked for later. -/
  | note
deriving DecidableEq, Repr

/-- The calls that only the programs around the shell make. -/
inductive Service
  /-- The duration is in nanoseconds. -/
  | sleep (duration : Nat)
  | makeDirectory (path : Bytes) (mode : Nat)
  | makeFifo (path : Bytes) (mode : Nat)
  | makeLink (target path : Bytes)
  /-- Gives a file another name. -/
  | addName (source path : Bytes)
  | rename (source target : Bytes)
  | remove (path : Bytes)
  | removeDirectory (path : Bytes)
  | readLink (path : Bytes)
  /-- With `follow`, a link at the end of the path is followed. -/
  | inspect (path : Bytes) (follow : Bool)
  | describe (d : Descriptor)
  /-- Sets the place where an open file is read or written next. -/
  | seek (d : Descriptor) (offset : Nat)
  /-- Makes a file as long as asked for. -/
  | resize (d : Descriptor) (size : Nat)
  | changeMode (path : Bytes) (mode : Nat)
  | list (path : Bytes)
  | workingDirectory
  /-- Copies a descriptor to the lowest free one from `least` on, which is closed by `execute`. -/
  | duplicateFrom (d least : Descriptor)
  | setEnvironment (environment : List (Bytes × Bytes))
  /-- Takes permissions away from the files that are created from now on; the reply is what was taken away
  until now. -/
  | setMask (mask : Nat)
  | react (signal : Nat) (reaction : Reaction)
  /-- How a process reacts to a signal. -/
  | reaction (signal : Nat)
  /-- The signals that were noted since the last time. -/
  | noted
  | parent
  /-- Lets a process open descriptors below a limit only; those that are open stay. -/
  | limitDescriptors (pid : Pid) (limit : Nat)
deriving DecidableEq, Repr

inductive Call
  /-- Opens a pipe; both ends are closed by `execute`. -/
  | pipe
  | openFile (path : Bytes) (access : Access)
  | close (d : Descriptor)
  /-- Makes `target` stand for what `source` stands for. -/
  | duplicate (source target : Descriptor)
  | read (d : Descriptor) (limit : Nat)
  | write (d : Descriptor) (bytes : Bytes)
  | setMode (d : Descriptor) (mode : Nat)
  | fileKind (path : Bytes)
  | changeDirectory (path : Bytes)
  | isTerminal (d : Descriptor)
  /-- Makes a process group the foreground group of a terminal. -/
  | setForeground (d : Descriptor) (group : Pid)
  | fork
  /-- Becomes another program, found along the search path; a reply means that this has failed. -/
  | execute (argv : List Bytes)
  /-- Becomes the program that a path leads to; a script has to name its interpreter. -/
  | executeFile (path : Bytes) (argv : List Bytes)
  | exit (code : Int)
  | ownPid
  | ownGroup
  /-- Puts a process into a group; 0 stands for the caller, and for the group that the process leads. -/
  | setGroup (pid group : Pid)
  | defaultSignal (s : Signal)
  | blockSignal (s : Signal) (blocked : Bool)
  | unblockSignals
  | kill (pid : Pid) (signal : Nat)
  | killGroup (group : Pid) (signal : Nat)
  /-- Collects a child that has ended; -1 stands for any child. -/
  | wait (pid : Pid) (block : Bool)
  | environment
  | service (s : Service)
  /-- Writes to the output of the shell. What it does not take is kept back. -/
  | print (text : Text)
  /-- Writes out what the output of the shell has kept back. -/
  | flush
  /-- Takes the job table, which no other thread can then take. -/
  | acquireJobs
  /-- Gives the job table back. -/
  | releaseJobs (jobs : JobTable)
  /-- Starts the thread that looks after signals. -/
  | startReaper
  /-- Ends the thread that looks after signals. -/
  | stopReaper
  | awaitNotice
deriving DecidableEq, Repr

/-- The reply to a service. -/
abbrev Service.Reply : Service → Type
  | list _ => Except Errno (List Bytes)
  | workingDirectory | readLink _ => Except Errno Bytes
  | describe _ | inspect _ _ => Except Errno FileInfo
  | duplicateFrom _ _ => Except Errno Descriptor
  | setEnvironment _ | sleep _ | react _ _ => Unit
  | setMask _ => Nat
  | reaction _ => Reaction
  | noted => List Nat
  | parent => Pid
  | _ => Except Errno Unit

/-- The reply to a call. -/
abbrev Call.Reply : Call → Type
  | pipe => Except Errno (Descriptor × Descriptor)
  | openFile _ _ => Except Errno Descriptor
  | read _ _ => Except Errno Bytes
  | write _ _ => Except Errno Nat
  | fileKind _ => Except Errno FileKind
  | isTerminal _ => Bool
  | fork => Except Errno Forked
  | execute _ | executeFile _ _ => Errno
  | exit _ => Empty
  | ownPid | ownGroup => Pid
  | defaultSignal _ | blockSignal _ _ | unblockSignals => Unit
  | wait _ _ => Except Errno Report
  | environment => List (Bytes × Bytes)
  | service s => s.Reply
  | acquireJobs => JobTable
  | releaseJobs _ | startReaper | stopReaper => Unit
  | awaitNotice => Notice
  | _ => Except Errno Unit

end JobShell
