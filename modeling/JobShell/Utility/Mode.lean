import JobShell.Utility.Numeral

/-! # Permissions

The permissions of a file are given by an octal number, or by changes to what it has: who is meant, what is
done, and which permissions. -/

namespace JobShell.Utility

/-- Which permissions a change is about. -/
inductive Permissions
  /-- The same permissions for everybody; with `search`, also to run what somebody may run already. -/
  | bits (bits : Nat) (search : Bool)
  /-- What a class of users has, given by the shift of its bits. -/
  | copied (shift : Nat)
deriving DecidableEq, Repr

/-- One change of permissions. -/
structure ModeChange where
  /-- The bits that are meant; none are all but those of the mask. -/
  affected : Nat
  operator : Char
  permissions : Permissions
deriving DecidableEq, Repr

/-- How permissions are to be. -/
inductive ModeSpec
  | absolute (mode : Nat)
  | changes (all : List ModeChange)
deriving DecidableEq, Repr

/-- All bits that can be changed. -/
def modeBits : Nat := 0o7777

/-- Bits without others. -/
def bitsWithout (a b : Nat) : Nat := a - a.land b

/-- Permissions as nine letters. Another letter in the place of the permission to run says that a special bit
is set. -/
def modeText (mode : Nat) : Bytes :=
  (List.range 9).map fun (i : Nat) =>
    let here := mode.testBit (8 - i)
    let special := i % 3 == 2 && mode.testBit (11 - i / 3)
    let letter := if i = 8 then 't' else 's'
    if special then (if here then byte letter else toUpper (byte letter))
    else byte (if here then ("rwx".toList[i % 3]?).getD '-' else '-')

/-- Permissions as an octal number of four digits and as letters. -/
def modeShown (mode : Nat) : Bytes :=
  padStart 48 4 (digitsIn 8 mode) ++ ascii " (" ++ modeText mode ++ ascii ")"

/-- The bits of the users that letters mean, and what is behind the letters. -/
def takeUsers (bits : Nat) : List Char → Nat × List Char
  | 'u' :: rest => takeUsers (bits.lor 0o4700) rest
  | 'g' :: rest => takeUsers (bits.lor 0o2070) rest
  | 'o' :: rest => takeUsers (bits.lor 0o1007) rest
  | 'a' :: rest => takeUsers (bits.lor 0o7777) rest
  | rest => (bits, rest)

/-- The permissions that letters mean, and what is behind the letters. -/
def takePermissions (bits : Nat) (search : Bool) : List Char → Permissions × List Char
  | 'r' :: rest => takePermissions (bits.lor 0o444) search rest
  | 'w' :: rest => takePermissions (bits.lor 0o222) search rest
  | 'x' :: rest => takePermissions (bits.lor 0o111) search rest
  | 'X' :: rest => takePermissions bits true rest
  | 's' :: rest => takePermissions (bits.lor 0o6000) search rest
  | 't' :: rest => takePermissions (bits.lor 0o1000) search rest
  | rest => (.bits bits search, rest)

/-- Reads changes behind the users that they are for. -/
def readChanges (affected : Nat) : Nat → List Char → Option (List ModeChange)
  | 0, _ => none
  | _, [] => some []
  | fuel + 1, c :: rest =>
    if c == '+' || c == '-' || c == '=' then
      let (permissions, behind) := match rest with
        | 'u' :: behind => (.copied 6, behind)
        | 'g' :: behind => (.copied 3, behind)
        | 'o' :: behind => (.copied 0, behind)
        | _ => takePermissions 0 false rest
      match behind with
      | ',' :: behind =>
        let (users, behind) := takeUsers 0 behind
        match behind with
        | [] => none
        | _ => (readChanges users fuel behind).map (⟨affected, c, permissions⟩ :: ·)
      | _ => (readChanges affected fuel behind).map (⟨affected, c, permissions⟩ :: ·)
    else none

/-- Reads how permissions are to be. -/
def readMode? (text : Bytes) : Option ModeSpec :=
  match text.map charOf with
  | [] => none
  | c :: rest =>
    if '0' ≤ c && c ≤ '7' then
      if (c :: rest).all fun c => '0' ≤ c && c ≤ '7' then
        let mode := (c :: rest).foldl (fun n c => n * 8 + (c.toNat - 48)) 0
        if mode ≤ modeBits then some (.absolute mode) else none
      else none
    else
      let (users, behind) := takeUsers 0 (c :: rest)
      if behind.isEmpty then none else (readChanges users (text.length + 1) behind).map .changes

/-- Permissions after a change. -/
def ModeChange.apply (isDirectory : Bool) (mask mode : Nat) (c : ModeChange) : Nat :=
  let value := match c.permissions with
    | .bits bits search =>
      if search && (isDirectory || mode.land 0o111 != 0) then bits.lor 0o111 else bits
    | .copied shift =>
      let bits := (mode >>> shift) % 8
      bits * 0o111
  let value := if c.affected = 0 then bitsWithout value mask else value.land c.affected
  match c.operator with
  | '+' => mode.lor value
  | '-' => bitsWithout mode value
  | _ => (if c.affected = 0 then 0 else bitsWithout mode c.affected).lor value

/-- Permissions as they are to be. -/
def ModeSpec.apply (isDirectory : Bool) (mask mode : Nat) : ModeSpec → Nat
  | absolute new => new
  | changes all => all.foldl (ModeChange.apply isDirectory mask) mode

end JobShell.Utility
