import JobShell.Proofs.Text.Numeral
import JobShell.Proofs.Traversal
import Mathlib.Algebra.Group.Int.Defs
import Mathlib.Algebra.Group.Nat.Defs

/-! # Texts that are numbers

A decimal is one digit or more, with zeros in front or not, and has a value however long it is. A text is read as a
number exactly if it is a decimal, with a sign in front or not, and if its value is in the range. So no value outside of
the range is taken for one inside. -/

namespace JobShell.Text

variable {c : Char} {t ds : Text} {n limit acc : Nat} {i : Int} {excess : NumberError}

/-- Digits and nothing else, and their value in base ten. -/
structure Decimal (ds : Text) (n : Nat) : Prop where
  ne_nil : ds ≠ []
  digits : ∀ c ∈ ds, c.isDigit = true
  value : Nat.ofDigitChars 10 ds 0 = n

theorem Decimal.unique {m : Nat} (h : Decimal ds n) (h' : Decimal ds m) : n = m :=
  h.value.symm.trans h'.value

theorem Decimal.head_ne {d : Char} (h : Decimal (c :: ds) n) (hd : d.isDigit = false) : c ≠ d := by
  rintro rfl
  rw [h.digits c List.mem_cons_self] at hd
  cases hd

theorem decimal_ofNat (n : Nat) : Decimal (ofNat n) n := by
  obtain ⟨d, ds, hn, -⟩ := exists_ofNat_eq_cons n
  exact ⟨by rw [hn]; exact List.cons_ne_nil d ds, fun _ hc => isDigit_of_mem_ofNat hc, ofDigitChars_ofNat n⟩

/-! ### Digits -/

theorem isDigit_of_digit? {d : Nat} (h : digit? c = some d) : c.isDigit = true := by
  rw [digit?] at h
  split at h
  · rename_i hrange
    simpa [Char.isDigit, Char.le_def] using hrange
  · cases h

/-- Reading stops behind the range or at a character that is no digit, and at nothing else. -/
theorem readDigits_eq_ok_iff (hacc : acc ≤ limit) : readDigits limit excess acc ds = .ok n ↔
    (∀ c ∈ ds, c.isDigit = true) ∧ Nat.ofDigitChars 10 ds acc = n ∧ n ≤ limit := by
  constructor
  · intro h
    induction ds generalizing acc with
    | nil =>
      cases h
      exact ⟨fun _ hc => absurd hc List.not_mem_nil, rfl, hacc⟩
    | cons c ds ih =>
      rw [readDigits] at h
      cases hc : digit? c with
      | none =>
        rw [hc] at h
        cases h
      | some d =>
        rw [hc] at h
        dsimp only at h
        split at h
        · rename_i hle
          obtain ⟨hds, hvalue, hn⟩ := ih hle h
          have hdigit : c.isDigit = true := isDigit_of_digit? hc
          obtain rfl : c.toNat - '0'.toNat = d := Option.some.inj ((digit?_of_isDigit hdigit).symm.trans hc)
          refine ⟨List.forall_mem_cons.mpr ⟨hdigit, hds⟩, ?_, hn⟩
          rw [Nat.mul_comm] at hvalue
          exact hvalue
        · cases h
  · rintro ⟨hds, rfl, hn⟩
    exact readDigits_eq_ok hds hn

theorem readDigits_eq_ok_iff_decimal (hds : ds ≠ []) :
    readDigits limit excess 0 ds = .ok n ↔ Decimal ds n ∧ n ≤ limit := by
  rw [readDigits_eq_ok_iff (Nat.zero_le limit)]
  constructor
  · rintro ⟨hdigits, hvalue, hn⟩
    exact ⟨⟨hds, hdigits, hvalue⟩, hn⟩
  · rintro ⟨h, hn⟩
    exact ⟨h.digits, h.value, hn⟩

/-! ### Numbers of 64 bits -/

/-- A decimal with a plus sign in front or not. -/
inductive Unsigned : Text → Nat → Prop
  | plain {ds : Text} {n : Nat} (h : Decimal ds n) : Unsigned ds n
  | plus {ds : Text} {n : Nat} (h : Decimal ds n) : Unsigned ('+' :: ds) n

theorem Unsigned.unique {m : Nat} (h : Unsigned t n) (h' : Unsigned t m) : n = m := by
  cases h with
  | plain h =>
    cases h' with
    | plain h' => exact h.unique h'
    | plus _ => exact absurd rfl (h.head_ne (by decide))
  | plus h =>
    cases h' with
    | plain h' => exact absurd rfl (h'.head_ne (by decide))
    | plus h' => exact h.unique h'

theorem readUnsigned_plus (hds : ds ≠ []) : readUnsigned ('+' :: ds) = readDigits maxUnsigned .tooLarge 0 ds := by
  cases ds with
  | nil => exact absurd rfl hds
  | cons c ds => rfl

theorem readUnsigned_plain (hc : c ≠ '+') :
    readUnsigned (c :: ds) = readDigits maxUnsigned .tooLarge 0 (c :: ds) := by
  unfold readUnsigned
  split
  · rename_i he
    cases he
  · rename_i he
    exact absurd (List.cons.inj he).1 hc
  · rename_i he
    exact absurd (List.cons.inj he).1 hc
  · rfl

theorem readUnsigned_eq_ok_iff : readUnsigned t = .ok n ↔ Unsigned t n ∧ n < 2 ^ 64 := by
  have hlimit : n ≤ maxUnsigned ↔ n < 2 ^ 64 := Nat.lt_succ_iff.symm
  rw [← hlimit]
  constructor
  · intro h
    cases t with
    | nil => cases h
    | cons c ds =>
      by_cases hc : c = '+'
      · subst hc
        have hds : ds ≠ [] := by
          rintro rfl
          cases h
        rw [readUnsigned_plus hds, readDigits_eq_ok_iff_decimal hds] at h
        exact ⟨.plus h.1, h.2⟩
      · rw [readUnsigned_plain hc, readDigits_eq_ok_iff_decimal (List.cons_ne_nil c ds)] at h
        exact ⟨.plain h.1, h.2⟩
  · rintro ⟨h | h, hn⟩
    · obtain ⟨c, ds, rfl⟩ := List.exists_cons_of_ne_nil h.ne_nil
      rw [readUnsigned_plain (h.head_ne (by decide)), readDigits_eq_ok_iff_decimal h.ne_nil]
      exact ⟨h, hn⟩
    · rw [readUnsigned_plus h.ne_nil, readDigits_eq_ok_iff_decimal h.ne_nil]
      exact ⟨h, hn⟩

/-! ### Signed numbers of 32 bits -/

/-- A decimal with a sign in front or not. -/
inductive Signed : Text → Int → Prop
  | plain {ds : Text} {n : Nat} (h : Decimal ds n) : Signed ds n
  | plus {ds : Text} {n : Nat} (h : Decimal ds n) : Signed ('+' :: ds) n
  | minus {ds : Text} {n : Nat} (h : Decimal ds n) : Signed ('-' :: ds) (-n)

theorem readSigned_plus (hds : ds ≠ []) :
    readSigned ('+' :: ds) = (readDigits maxSigned .tooLarge 0 ds).map Int.ofNat := by
  cases ds with
  | nil => exact absurd rfl hds
  | cons c ds => rfl

theorem readSigned_minus (hds : ds ≠ []) :
    readSigned ('-' :: ds) = (readDigits (maxSigned + 1) .tooSmall 0 ds).map fun n => -Int.ofNat n := by
  cases ds with
  | nil => exact absurd rfl hds
  | cons c ds => rfl

theorem readSigned_plain (hplus : c ≠ '+') (hminus : c ≠ '-') :
    readSigned (c :: ds) = (readDigits maxSigned .tooLarge 0 (c :: ds)).map Int.ofNat := by
  have hne : ∀ {d : Char} {ds' : Text}, c :: ds = d :: ds' → d ≠ '+' ∧ d ≠ '-' := fun he =>
    (List.cons.inj he).1 ▸ ⟨hplus, hminus⟩
  unfold readSigned
  split
  · rename_i he
    cases he
  · rename_i he
    exact absurd rfl (hne he).1
  · rename_i he
    exact absurd rfl (hne he).2
  · rename_i he
    exact absurd rfl (hne he).1
  · rename_i he
    exact absurd rfl (hne he).2
  · rfl

/-- A sign may come with any meaning of the digits behind it. -/
theorem map_readDigits_eq_ok_iff {f : Nat → Int} (hds : ds ≠ []) :
    (readDigits limit excess 0 ds).map f = .ok i ↔ ∃ n, Decimal ds n ∧ n ≤ limit ∧ f n = i := by
  simp only [map_eq_ok_iff, readDigits_eq_ok_iff_decimal hds, and_assoc]

theorem readSigned_eq_ok_iff : readSigned t = .ok i ↔ Signed t i ∧ -2 ^ 31 ≤ i ∧ i < 2 ^ 31 := by
  have hlimit : maxSigned = 2 ^ 31 - 1 := rfl
  constructor
  · intro h
    cases t with
    | nil => cases h
    | cons c ds =>
      by_cases hplus : c = '+'
      · subst hplus
        have hds : ds ≠ [] := by
          rintro rfl
          cases h
        rw [readSigned_plus hds, map_readDigits_eq_ok_iff hds] at h
        obtain ⟨n, hn, hle, rfl⟩ := h
        rw [Int.ofNat_eq_natCast]
        exact ⟨.plus hn, by omega, by omega⟩
      by_cases hminus : c = '-'
      · subst hminus
        have hds : ds ≠ [] := by
          rintro rfl
          cases h
        rw [readSigned_minus hds, map_readDigits_eq_ok_iff hds] at h
        obtain ⟨n, hn, hle, rfl⟩ := h
        rw [Int.ofNat_eq_natCast]
        exact ⟨.minus hn, by omega, by omega⟩
      · rw [readSigned_plain hplus hminus, map_readDigits_eq_ok_iff (List.cons_ne_nil c ds)] at h
        obtain ⟨n, hn, hle, rfl⟩ := h
        rw [Int.ofNat_eq_natCast]
        exact ⟨.plain hn, by omega, by omega⟩
  · rintro ⟨h | h | h, hlow, hhigh⟩
    · obtain ⟨c, ds, rfl⟩ := List.exists_cons_of_ne_nil h.ne_nil
      rw [readSigned_plain (h.head_ne (by decide)) (h.head_ne (by decide)), map_readDigits_eq_ok_iff h.ne_nil]
      exact ⟨_, h, by omega, rfl⟩
    · rw [readSigned_plus h.ne_nil, map_readDigits_eq_ok_iff h.ne_nil]
      exact ⟨_, h, by omega, rfl⟩
    · rw [readSigned_minus h.ne_nil, map_readDigits_eq_ok_iff h.ne_nil]
      exact ⟨_, h, by omega, rfl⟩

end JobShell.Text
