import JobShell.Config
import JobShell.Proofs.Text.Decimal

/-! # Layers of variables

Each setting has a variable of its own and is read from it alone. A variable that is missing, or that is meant for a
number and is none, leaves its setting as it was. So variables can be given in layers, of which the last one counts that
says something about a setting, and layers that say something about different settings may come in any order. -/

namespace JobShell

/-- The settings, one for each variable. -/
inductive Setting
  | prompt
  | historyFile
  | historySize
  | startupFile
  | stages
  | words
deriving DecidableEq, Repr

namespace Setting

/-- The name of the variable. -/
def key : Setting → Text
  | prompt => "PISH_PROMPT".toList
  | historyFile => "PISH_HISTFILE".toList
  | historySize => "PISH_HISTSIZE".toList
  | startupFile => "PISH_RC".toList
  | stages => "PISH_MAX_STAGES".toList
  | words => "PISH_MAX_TOKENS".toList

def isFile : Setting → Bool
  | historyFile | startupFile => true
  | _ => false

/-- What a setting can be. A file can be turned off. -/
inductive Value
  | text (t : Text)
  | file (path : Option Bytes)
  | number (n : Nat)
deriving DecidableEq, Repr

/-- What a variable says, if it says anything. -/
def read (home : Option Bytes) (v : Text) : Setting → Option Value
  | prompt => some (.text v)
  | historyFile | startupFile => some (.file (Config.readPath home v))
  | historySize | stages | words => (Text.readUnsigned v).toOption.map .number

/-- The variables that are meant for numbers. -/
def numeric : List Text := [historySize.key, stages.key, words.key]

/-- A variable has a value that says something: any value, or a number of 64 bits if it is meant for one. -/
def Gives (lookup : Text → Option Text) (key : Text) : Prop :=
  ∃ v, lookup key = some v ∧ (key ∈ numeric → ∃ n, Text.Unsigned v n ∧ n < 2 ^ 64)

end Setting

namespace Config
open Setting (Gives)

/-- A setting as it stands. -/
def value (c : Config) : Setting → Setting.Value
  | .prompt => .text c.prompt
  | .historyFile => .file c.historyFile
  | .historySize => .number c.historySize
  | .startupFile => .file c.startupFile
  | .stages => .number c.limits.stages
  | .words => .number c.limits.words

variable {home : Option Bytes} {c c' : Config} {f g : Text → Option Text} {s : Setting} {v key : Text}

theorem eq_of_value (h : ∀ s, c.value s = c'.value s) : c = c' := by
  obtain ⟨prompt, historyFile, historySize, startupFile, stages, words⟩ := c
  obtain ⟨prompt', historyFile', historySize', startupFile', stages', words'⟩ := c'
  have hprompt := h .prompt
  have hhistory := h .historyFile
  have hsize := h .historySize
  have hstartup := h .startupFile
  have hstages := h .stages
  have hwords := h .words
  simp_all [value]

/-! ### One setting -/

theorem text_getD (t : Text) (v : Option Text) :
    Setting.Value.text (v.getD t) = (v.bind fun v => some (.text v)).getD (.text t) := by
  cases v <;> rfl

theorem file_getD (path : Option Bytes) (v : Option Text) : Setting.Value.file ((v.map (readPath home)).getD path) =
    (v.bind fun v => some (.file (readPath home v))).getD (.file path) := by
  cases v <;> rfl

theorem number_readNumber (n : Nat) (v : Option Text) : Setting.Value.number (readNumber n v) =
    (v.bind fun v => (Text.readUnsigned v).toOption.map .number).getD (.number n) := by
  cases v with
  | none => rfl
  | some v =>
    rw [readNumber, Option.bind_some, Option.bind_some]
    cases (Text.readUnsigned v).toOption <;> rfl

/-- Each setting is changed by its own variable, and by nothing else. -/
theorem value_override (home : Option Bytes) (f : Text → Option Text) (c : Config) (s : Setting) :
    (override home f c).value s = ((f s.key).bind fun v => s.read home v).getD (c.value s) := by
  cases s with
  | prompt => exact text_getD _ _
  | historyFile => exact file_getD _ _
  | historySize => exact number_readNumber _ _
  | startupFile => exact file_getD _ _
  | stages => exact number_readNumber _ _
  | words => exact number_readNumber _ _

theorem isSome_readUnsigned_iff : (Text.readUnsigned v).toOption.isSome = true ↔
    ∃ n, Text.Unsigned v n ∧ n < 2 ^ 64 := by
  simp only [← Text.readUnsigned_eq_ok_iff]
  cases Text.readUnsigned v <;> simp [Except.toOption]

instance (lookup : Text → Option Text) (key : Text) : Decidable (Gives lookup key) :=
  decidable_of_iff ((lookup key).any fun v => key ∉ Setting.numeric ∨ (Text.readUnsigned v).toOption.isSome) <| by
    simp [Option.any_eq_true, isSome_readUnsigned_iff, Gives, imp_iff_not_or]

theorem isSome_read_iff (home : Option Bytes) (s : Setting) (v : Text) : (s.read home v).isSome = true ↔
    (s.key ∈ Setting.numeric → ∃ n, Text.Unsigned v n ∧ n < 2 ^ 64) := by
  have hnumber : (((Text.readUnsigned v).toOption.map .number : Option Setting.Value).isSome = true ↔
      ∃ n, Text.Unsigned v n ∧ n < 2 ^ 64) := by
    rw [Option.isSome_map, isSome_readUnsigned_iff]
  cases s with
  | prompt => exact iff_of_true rfl fun h => absurd h (by decide)
  | historyFile => exact iff_of_true rfl fun h => absurd h (by decide)
  | startupFile => exact iff_of_true rfl fun h => absurd h (by decide)
  | historySize => exact hnumber.trans ⟨fun h _ => h, fun h => h (by decide)⟩
  | stages => exact hnumber.trans ⟨fun h _ => h, fun h => h (by decide)⟩
  | words => exact hnumber.trans ⟨fun h _ => h, fun h => h (by decide)⟩

theorem value_override_congr (hkey : f s.key = g s.key) (hvalue : c.value s = c'.value s) :
    (override home f c).value s = (override home g c').value s := by
  rw [value_override, value_override, hkey, hvalue]

/-- Where a variable says something, it does not matter how its setting was before. -/
theorem value_override_of_gives (h : Gives f s.key) (c c' : Config) :
    (override home f c).value s = (override home f c').value s := by
  obtain ⟨v, hv, hread⟩ := h
  obtain ⟨x, hx⟩ := Option.isSome_iff_exists.mp ((isSome_read_iff home s v).mpr hread)
  rw [value_override, value_override, hv, Option.bind_some, hx, Option.getD_some, Option.getD_some]

theorem value_override_of_not_gives (h : ¬ Gives f s.key) (c : Config) :
    (override home f c).value s = c.value s := by
  have hnone : ((f s.key).bind fun v => s.read home v) = none := by
    rw [Option.bind_eq_none_iff]
    intro v hv
    rw [← Option.not_isSome_iff_eq_none, isSome_read_iff]
    exact fun hread => h ⟨v, hv, hread⟩
  rw [value_override, hnone, Option.getD_none]

/-! ### Layers -/

/-- The variables of one layer with those of another on top, as far as they say something. -/
def layered (f g : Text → Option Text) (key : Text) : Option Text :=
  if Gives g key then g key else f key

theorem layered_self (f : Text → Option Text) : layered f f = f := by
  funext key
  exact ite_self _

theorem override_layered (home : Option Bytes) (f g : Text → Option Text) (c : Config) :
    override home g (override home f c) = override home (layered f g) c := by
  refine eq_of_value fun s => ?_
  by_cases hg : Gives g s.key
  · have hkey : g s.key = layered f g s.key := (if_pos hg).symm
    calc (override home g (override home f c)).value s = (override home g c).value s := value_override_of_gives hg _ _
      _ = (override home (layered f g) c).value s := value_override_congr hkey rfl
  · have hkey : f s.key = layered f g s.key := (if_neg hg).symm
    calc (override home g (override home f c)).value s = (override home f c).value s := value_override_of_not_gives hg _
      _ = (override home (layered f g) c).value s := value_override_congr hkey rfl

theorem override_comm (h : ∀ s : Setting, ¬ Gives f s.key ∨ ¬ Gives g s.key) (home : Option Bytes) (c : Config) :
    override home g (override home f c) = override home f (override home g c) := by
  refine eq_of_value fun s => ?_
  rcases h s with hf | hg
  · have hsame : (override home f c).value s = c.value s := value_override_of_not_gives hf c
    exact (value_override_congr rfl hsame).trans (value_override_of_not_gives hf _).symm
  · have hsame : c.value s = (override home g c).value s := (value_override_of_not_gives hg c).symm
    exact (value_override_of_not_gives hg _).trans (value_override_congr rfl hsame)

/-- Two layers of variables are one in which a variable of the upper layer counts if it says something, and that of the
lower layer otherwise. So the same layer may be applied once more. A setting after a layer depends on what it was before
and on its own variable, which leaves it as it was unless it says something. Layers that do not say something about the
same setting may be exchanged. -/
theorem override_override (home : Option Bytes) (f g : Text → Option Text) (c : Config) :
    override home g (override home f c) = override home (layered f g) c ∧
    override home f (override home f c) = override home f c ∧
    (∀ (s : Setting) (c' : Config), f s.key = g s.key → c.value s = c'.value s →
      (override home f c).value s = (override home g c').value s) ∧
    (∀ s : Setting, ¬ Gives f s.key → (override home f c).value s = c.value s) ∧
    ((∀ s : Setting, ¬ Gives f s.key ∨ ¬ Gives g s.key) →
      override home g (override home f c) = override home f (override home g c)) := by
  refine ⟨override_layered home f g c, ?_, fun s c' hkey hvalue => ?_, fun s h => ?_, fun h => ?_⟩
  · rw [override_layered, layered_self]
  · exact value_override_congr hkey hvalue
  · exact value_override_of_not_gives h c
  · exact override_comm h home c

/-- A word on top of a number is not one that counts. -/
example : (override none (layered (fun key => if key = Setting.stages.key then some ['+', '3'] else none)
    fun key => if key = Setting.stages.key then some ['t', 'e', 'n'] else none) (standard none)).limits.stages = 3 := by
  decide

end Config

end JobShell
