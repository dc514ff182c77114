/-
  Downlevel — strings read back.

  In a written string every byte stands for itself or is escaped, and each of
  them is one part for the reader, which yields that byte again
  (`textPart_writeByte`).  So the bytes of the string come back, and with them
  the string (`string_write`).
-/
import Downlevel.Json.Write
import Downlevel.Proofs.Json.Reading

namespace Downlevel.Json

/-! ## Escapes -/

/-- The letter of an escape leads back to the byte. -/
theorem escaped?_of_escapeLetter? {b letter : UInt8} (h : escapeLetter? b = some letter) :
    escaped? letter = some b := by
  have hall : ∀ n < 256, (escapeLetter? (UInt8.ofNat n)).all
      fun letter => escaped? letter = some (UInt8.ofNat n) := by decide +kernel
  have hb := hall b.toNat (UInt8.toNat_lt b)
  rw [UInt8.ofNat_toNat, h] at hb
  simpa using hb

theorem hexDigit?_hexByte {d : UInt8} (h : d < 16) : hexDigit? (hexByte d) = some d.toNat := by
  have hall : ∀ n < 16, hexDigit? (hexByte (UInt8.ofNat n)) = some n := by decide
  have hd := hall d.toNat (UInt8.lt_iff_toNat_lt.1 h)
  rwa [UInt8.ofNat_toNat] at hd

/-- A control character is its own code point, written in four digits. -/
theorem codePoint_hexBytes {b : UInt8} (h : b < 0x20) (rest : Bytes) :
    codePoint (0x30 :: 0x30 :: hexByte (b / 16) :: hexByte (b % 16) :: rest) =
      .ok (b.toNat, rest) := by
  have hb : b.toNat < 32 := UInt8.lt_iff_toNat_lt.1 h
  have hdiv : (b / 16).toNat = b.toNat / 16 := UInt8.toNat_div b 16
  have hmod : (b % 16).toNat = b.toNat % 16 := UInt8.toNat_mod b 16
  have hzero : hexDigit? 0x30 = some 0 := by decide
  have hhigh : hexDigit? (hexByte (b / 16)) = some (b.toNat / 16) := by
    have hlt : b / 16 < 16 := UInt8.lt_iff_toNat_lt.2 (by rw [hdiv]; show b.toNat / 16 < 16; omega)
    rw [hexDigit?_hexByte hlt, hdiv]
  have hlow : hexDigit? (hexByte (b % 16)) = some (b.toNat % 16) := by
    have hlt : b % 16 < 16 := UInt8.lt_iff_toNat_lt.2 (by rw [hmod]; show b.toNat % 16 < 16; omega)
    rw [hexDigit?_hexByte hlt, hmod]
  have hvalue : ((0 * 16 + 0) * 16 + b.toNat / 16) * 16 + b.toNat % 16 = b.toNat := by omega
  rw [codePoint, hexUnit, hzero, hhigh, hlow]
  simp only [hvalue, ok_bind]
  rw [if_neg (by omega), if_pos (.inl (by omega))]

theorem utf8EncodeChar_ofNat {n : Nat} (h : n < 0x80) :
    String.utf8EncodeChar (Char.ofNat n) = [UInt8.ofNat n] := by
  revert n
  decide

/-! ## Parts -/

/-- A written byte is one part of a string. -/
theorem textPart_writeByte (b : UInt8) (rest : Bytes) :
    textPart (writeByte b ++ rest) = .ok (some [b], rest) := by
  have hquote : escapeByte ≠ quoteByte := by decide
  unfold writeByte
  split
  · rename_i letter hletter
    simp [textPart, hquote, escape, escaped?_of_escapeLetter? hletter]
  · rename_i hnone
    split
    · rename_i hcontrol
      have hnoLetter : escaped? 0x75 = none := by decide
      have hascii : b.toNat < 0x80 :=
        Nat.lt_trans (UInt8.lt_iff_toNat_lt.1 hcontrol) (by decide)
      simp [textPart, hquote, escape, hnoLetter, codePoint_hexBytes hcontrol,
        utf8EncodeChar_ofNat hascii]
    · rename_i hcontrol
      have hplain : b ≠ quoteByte ∧ b ≠ escapeByte := by
        constructor <;> rintro rfl <;> cases hnone
      simp [textPart, hplain.1, hplain.2, hcontrol]

theorem one_le_length_writeByte (b : UInt8) : 1 ≤ (writeByte b).length := by
  unfold writeByte
  split
  · exact Nat.le_add_left 1 1
  · split
    · exact Nat.le_add_left 1 5
    · exact Nat.le_refl 1

/-- One part is read for each byte, and then the closing mark. -/
theorem textFrom_write {bytes : Bytes} {fuel : Nat} (h : bytes.length < fuel) (rest : Bytes) :
    textFrom fuel (bytes.flatMap writeByte ++ quoteByte :: rest) = .ok (bytes, rest) := by
  induction bytes generalizing fuel with
  | nil =>
    obtain ⟨fuel, rfl⟩ := Nat.exists_eq_add_one.2 h
    simp [textFrom, textPart]
  | cons b bytes ih =>
    obtain ⟨fuel, rfl⟩ := Nat.exists_eq_add_one.2 (Nat.zero_lt_of_lt h)
    have hmore := ih (Nat.lt_of_succ_lt_succ h)
    rw [List.flatMap_cons, List.append_assoc, textFrom, textPart_writeByte, ok_bind]
    dsimp only
    rw [hmore, ok_bind]
    rfl

theorem length_le_flatMap_writeByte (bytes : Bytes) :
    bytes.length ≤ (bytes.flatMap writeByte).length := by
  induction bytes with
  | nil => exact Nat.le_refl 0
  | cons b bytes ih =>
    have hb := one_le_length_writeByte b
    rw [List.flatMap_cons, List.length_cons, List.length_append]
    omega

/-- A string reads back behind its opening mark. -/
theorem string_write (s : String) (rest : Bytes) :
    string ((Bytes.ofString s).flatMap writeByte ++ quoteByte :: rest) = .ok (s, rest) := by
  have hlength := length_le_flatMap_writeByte (Bytes.ofString s)
  rw [string, textFrom_write (by rw [List.length_append]; omega), ok_bind]
  simp only [Bytes.text?_ofString]

end Downlevel.Json
