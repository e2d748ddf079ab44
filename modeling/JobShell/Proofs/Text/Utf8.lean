import JobShell.Text.Utf8
import Mathlib.Tactic.SplitIfs

/-! # Texts as bytes

A text can be read back from its UTF-8 form, and a byte of this form that is an ASCII character stands for this
character. So the form of a text without zeros has none, and no byte of it is lost where a zero ends a sequence. -/

namespace JobShell.Text

theorem mk_encode (t : Text) : ByteArray.mk t.encode.toArray = t.utf8Encode := by
  ext1
  simp [List.utf8Encode, encode]

theorem decode?_encode (t : Text) : decode? t.encode = some t := by
  rw [decode?, mk_encode, List.utf8Decode?_utf8Encode]
  rfl

/-- No bytes are a text but the form of one. -/
theorem decode?_eq_some_iff {bs : Bytes} {t : Text} : decode? bs = some t ↔ t.encode = bs := by
  constructor
  · intro h
    obtain ⟨chars, hchars, rfl⟩ := Option.map_eq_some_iff.mp h
    have hsome : (ByteArray.mk bs.toArray).utf8Decode?.isSome = true := Option.isSome_of_mem hchars
    have hget : (ByteArray.mk bs.toArray).utf8Decode?.get hsome = chars := Option.get_of_mem hsome hchars
    have hmk : ByteArray.mk (encode chars.toList).toArray = ByteArray.mk bs.toArray := by
      rw [mk_encode, ← hget, ByteArray.utf8Encode_get_utf8Decode?]
    exact Array.toList_inj.mpr (ByteArray.mk.inj hmk)
  · rintro rfl
    exact decode?_encode t

/-- The byte of an ASCII character stands in the UTF-8 form of no other character. -/
theorem ascii_mem_encodeChar_iff {c d : Char} (hd : d.toNat < 128) :
    UInt8.ofNat d.toNat ∈ String.utf8EncodeChar c ↔ d = c := by
  have hsame : d = c ↔ d.toNat = c.val.toNat := Char.toNat_inj.symm
  have hbyte : ∀ n, UInt8.ofNat d.toNat = UInt8.ofNat n ↔ d.toNat = n % 256 := by
    intro n
    rw [← UInt8.toNat_inj, UInt8.toNat_ofNat', UInt8.toNat_ofNat']
    omega
  rw [hsame]
  unfold String.utf8EncodeChar
  dsimp only
  split_ifs <;> simp only [List.mem_cons, List.not_mem_nil, or_false, hbyte] <;> omega

theorem zero_mem_encode_iff {t : Text} : 0 ∈ t.encode ↔ '\x00' ∈ t := by
  have hchar : ∀ c, 0 ∈ String.utf8EncodeChar c ↔ '\x00' = c := fun c =>
    ascii_mem_encodeChar_iff (d := '\x00') (by decide)
  simp only [encode, List.mem_flatMap, hchar, exists_eq_right']

end JobShell.Text
