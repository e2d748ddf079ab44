import JobShell.Text.Number
import Mathlib.Data.List.Basic

/-! # Numbers that were written

The digits of a number are read back as the number, as long as it is in the range that is read. -/

namespace JobShell.Text

variable {c : Char} {n limit acc : Nat} {ds : Text} {excess : NumberError}

theorem isDigit_of_mem_ofNat (h : c ∈ ofNat n) : c.isDigit = true :=
  Nat.isDigit_of_mem_toDigits (by decide) (by decide) h

theorem exists_ofNat_eq_cons (n : Nat) : ∃ d ds, ofNat n = d :: ds ∧ d.isDigit = true := by
  have hne : ofNat n ≠ [] := by
    rw [ofNat, Nat.toDigits_eq_if (by decide)]
    split <;> simp
  obtain ⟨d, ds, hn⟩ := List.exists_cons_of_ne_nil hne
  exact ⟨d, ds, hn, isDigit_of_mem_ofNat (n := n) (hn ▸ List.mem_cons_self)⟩

theorem digit?_of_isDigit (h : c.isDigit = true) : digit? c = some (c.toNat - '0'.toNat) := by
  have hrange : '0' ≤ c ∧ c ≤ '9' := by simpa [Char.isDigit, Char.le_def] using h
  rw [digit?, if_pos hrange]

theorem le_ofDigitChars (acc : Nat) (ds : Text) : acc ≤ Nat.ofDigitChars 10 ds acc := by
  induction ds generalizing acc with
  | nil => exact Nat.le_refl acc
  | cons c ds ih => exact Nat.le_trans (by omega) (ih (10 * acc + (c.toNat - '0'.toNat)))

/-- The values on the way do not leave the range, since they only grow. -/
theorem readDigits_eq_ok (hds : ∀ c ∈ ds, c.isDigit = true) (h : Nat.ofDigitChars 10 ds acc ≤ limit) :
    readDigits limit excess acc ds = .ok (Nat.ofDigitChars 10 ds acc) := by
  induction ds generalizing acc with
  | nil => rfl
  | cons c ds ih =>
    obtain ⟨hc, hds⟩ := List.forall_mem_cons.mp hds
    have hvalue : Nat.ofDigitChars 10 (c :: ds) acc = Nat.ofDigitChars 10 ds (acc * 10 + (c.toNat - '0'.toNat)) := by
      rw [Nat.mul_comm]
      rfl
    rw [hvalue] at h ⊢
    rw [readDigits, digit?_of_isDigit hc]
    simp only [Nat.le_trans (le_ofDigitChars _ ds) h, if_true]
    exact ih hds h

theorem ofDigitChars_ofNat (n : Nat) : Nat.ofDigitChars 10 (ofNat n) 0 = n :=
  Nat.ofDigitChars_toDigits (by decide) (by decide)

theorem readUnsigned_ofNat (h : n ≤ maxUnsigned) : readUnsigned (ofNat n) = .ok n := by
  obtain ⟨d, ds, hn, hdigit⟩ := exists_ofNat_eq_cons n
  have hd : d ≠ '+' := by
    rintro rfl
    cases hdigit
  have hread : readUnsigned (ofNat n) = readDigits maxUnsigned .tooLarge 0 (ofNat n) := by
    rw [hn]
    unfold readUnsigned
    split
    · rename_i he
      cases he
    · rename_i he
      exact absurd (List.cons.inj he).1 hd
    · rename_i he
      exact absurd (List.cons.inj he).1 hd
    · rfl
  rw [hread, readDigits_eq_ok (fun c hc => isDigit_of_mem_ofNat hc) (by rwa [ofDigitChars_ofNat]), ofDigitChars_ofNat]

/-! ### Integers -/

/-- The integer that was written. -/
def toInt : Text → Int
  | '-' :: ds => -Nat.ofDigitChars 10 ds 0
  | ds => Nat.ofDigitChars 10 ds 0

theorem toInt_ofInt (i : Int) : toInt (ofInt i) = i := by
  cases i with
  | ofNat n =>
    obtain ⟨d, ds, hn, hdigit⟩ := exists_ofNat_eq_cons n
    have hd : d ≠ '-' := by
      rintro rfl
      cases hdigit
    have hread : toInt (ofNat n) = Nat.ofDigitChars 10 (ofNat n) 0 := by
      rw [hn]
      unfold toInt
      split
      · rename_i he
        exact absurd (List.cons.inj he).1 hd
      · rfl
    show toInt (ofNat n) = n
    rw [hread, ofDigitChars_ofNat]
  | negSucc n =>
    show -((Nat.ofDigitChars 10 (ofNat (n + 1)) 0 : Nat) : Int) = Int.negSucc n
    rw [ofDigitChars_ofNat]
    rfl

theorem mem_ofInt {i : Int} (h : c ∈ ofInt i) : c = '-' ∨ c.isDigit = true := by
  cases i with
  | ofNat n => exact .inr (isDigit_of_mem_ofNat h)
  | negSucc n => exact (List.mem_cons.mp h).imp_right isDigit_of_mem_ofNat

end JobShell.Text
