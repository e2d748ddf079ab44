import JobShell.Pipeline.Basic
import JobShell.Text.Number
import JobShell.Text.Utf8

/-! # Configuration

The shell is configured by the variables of its environment. Each variable stands for one setting and leaves
the others alone. An empty path turns a file off, and a number that cannot be read is ignored. The path of the
home directory may be any bytes; the settings are texts, and a variable that holds something else does not count. -/

namespace JobShell

/-- The settings of a shell. -/
structure Config where
  prompt : Text
  historyFile : Option Bytes
  historySize : Nat
  startupFile : Option Bytes
  limits : Limits
deriving DecidableEq, Repr

namespace Path

/-- What stands between the names on a path. -/
def slash : UInt8 := 47

/-- The path `rest` as seen from the directory `base`; a path from the root does not depend on where it is
seen from. -/
def join (base rest : Bytes) : Bytes :=
  if rest.head? = some slash then rest
  else if base.isEmpty || base.getLast? = some slash then base ++ rest
  else base ++ slash :: rest

/-- Replaces a tilde in front of a path by the home directory, if there is one. -/
def expandTilde (home : Option Bytes) (path : Text) : Bytes :=
  match path, home with
  | '~' :: '/' :: rest, some home => join home (Text.encode rest)
  | path, _ => path.encode

end Path

namespace Config

/-- The settings without any variable but the home directory. -/
def standard (home : Option Bytes) : Config where
  prompt := "pish> ".toList
  historyFile := home.map (Path.join · (Text.encode ".pish_history".toList))
  historySize := 1000
  startupFile := home.map (Path.join · (Text.encode ".pishrc".toList))
  limits := { stages := 10, words := 63 }

/-- The value of a path setting. -/
def readPath (home : Option Bytes) (value : Text) : Option Bytes :=
  if value.isEmpty then none else some (Path.expandTilde home value)

/-- The number that a value stands for, or else the number from before. -/
def readNumber (before : Nat) (value : Option Text) : Nat :=
  match value.bind fun v => (Text.readUnsigned v).toOption with
  | some n => n
  | none => before

/-- Changes the settings for which `lookup` has a value. -/
def override (home : Option Bytes) (lookup : Text → Option Text) (c : Config) : Config where
  prompt := (lookup "PISH_PROMPT".toList).getD c.prompt
  historyFile := ((lookup "PISH_HISTFILE".toList).map (readPath home)).getD c.historyFile
  historySize := readNumber c.historySize (lookup "PISH_HISTSIZE".toList)
  startupFile := ((lookup "PISH_RC".toList).map (readPath home)).getD c.startupFile
  limits := {
    stages := readNumber c.limits.stages (lookup "PISH_MAX_STAGES".toList)
    words := readNumber c.limits.words (lookup "PISH_MAX_TOKENS".toList) }

/-- The value of a variable in an environment. -/
def valueIn? (environment : List (Bytes × Bytes)) (name : Text) : Option Bytes :=
  (environment.find? fun v => v.1 == name.encode).map (·.2)

/-- The value of a variable in an environment, if it is a text. -/
def textIn? (environment : List (Bytes × Bytes)) (name : Text) : Option Text :=
  (valueIn? environment name).bind Text.decode?

/-- The settings that an environment stands for. -/
def ofEnvironment (environment : List (Bytes × Bytes)) : Config :=
  let home := valueIn? environment "HOME".toList
  override home (textIn? environment) (standard home)

end Config

end JobShell
