import JobShell.Text.Basic

/-! # Readers

A reader takes a value off the front of a text. Readers are put together one behind the other and in repetition. If one
of them cannot go on, it matters whether something was taken before: if not, the text is only refused, and a repetition
ends in front of it; if so, reading has failed, and with it everything that this reader is a part of. -/

namespace JobShell.Text

/-- What comes of reading at the front of a text: a value and the rest, or nothing that was taken, or something that was
taken and does not go on as it should. -/
inductive Reading (α : Type) where
  | read (value : α) (rest : Text)
  | refused
  | failed

def Reading.map {α β : Type} (f : α → β) : Reading α → Reading β
  | .read a rest => .read (f a) rest
  | .refused => .refused
  | .failed => .failed

abbrev Reader (α : Type) := Text → Reading α

namespace Reader
variable {α β γ : Type}

def one (p : Char → Bool) : Reader Char
  | [] => .refused
  | c :: t => if p c then .read c t else .refused

def both (f : α → β → γ) (x : Reader α) (y : Reader β) : Reader γ := fun t =>
  match x t with
  | .read a rest =>
    match y rest with
    | .read b rest' => .read (f a b) rest'
    -- The second reader stands behind what the first one took.
    | .refused => if rest.length < t.length then .failed else .refused
    | .failed => .failed
  | .refused => .refused
  | .failed => .failed

/-- Reads values up to the first that is refused. A reader that takes nothing would be repeated forever, which counts as
a failure. -/
def many (x : Reader α) (t : Text) : Reading (List α) :=
  match x t with
  | .read a rest => if rest.length < t.length then (many x rest).map (a :: ·) else .failed
  | .refused => .read [] t
  | .failed => .failed
termination_by t.length

def many1 (x : Reader α) : Reader (List α) :=
  both List.cons x (many x)

/-- Reads a value and drops the one in front of it. -/
def behind (x : Reader α) (y : Reader β) : Reader β :=
  both (fun _ b => b) x y

/-- Reads a value and drops the one behind it. -/
def before (x : Reader α) (y : Reader β) : Reader α :=
  both (fun a _ => a) x y

theorem both_of_read {x : Reader α} {y : Reader β} {t rest rest' : Text} {a : α} {b : β} (hx : x t = .read a rest)
    (hy : y rest = .read b rest') (f : α → β → γ) : both f x y t = .read (f a b) rest' := by
  simp only [both, hx, hy]

theorem many_of_refused {x : Reader α} {t : Text} (hx : x t = .refused) : many x t = .read [] t := by
  rw [many, hx]

theorem many_of_read {x : Reader α} {t rest : Text} {a : α} (hx : x t = .read a rest) (hrest : rest.length < t.length) :
    many x t = (many x rest).map (a :: ·) := by
  rw [many, hx]
  exact if_pos hrest

theorem many_one (p : Char → Bool) (t : Text) : many (one p) t = .read (t.takeWhile p) (t.dropWhile p) := by
  induction t with
  | nil => exact many_of_refused rfl
  | cons c t ih =>
    cases hc : p c with
    | false =>
      have hone : one p (c :: t) = .refused := by simp [one, hc]
      rw [many_of_refused hone, List.takeWhile_cons_of_neg (by simp [hc]), List.dropWhile_cons_of_neg (by simp [hc])]
    | true =>
      have hone : one p (c :: t) = .read c t := by simp [one, hc]
      rw [many_of_read hone (by simp), ih, List.takeWhile_cons_of_pos hc, List.dropWhile_cons_of_pos hc]
      rfl

theorem many1_one {p : Char → Bool} {t : Text} (h : t.takeWhile p ≠ []) :
    many1 (one p) t = .read (t.takeWhile p) (t.dropWhile p) := by
  cases t with
  | nil => exact absurd rfl h
  | cons c t =>
    have hc : p c = true := Decidable.byContradiction fun hc => h (List.takeWhile_cons_of_neg hc)
    have hone : one p (c :: t) = .read c t := by simp [one, hc]
    rw [List.takeWhile_cons_of_pos hc, List.dropWhile_cons_of_pos hc]
    exact both_of_read hone (many_one p t) List.cons

end Reader

end JobShell.Text
