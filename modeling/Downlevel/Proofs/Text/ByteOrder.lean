/-
  Downlevel — the order of texts is the order of their bytes.

  Texts are compared character by character.  The bytes of a character with a
  greater number are greater, whatever follows (`utf8EncodeChar_lt`): where two
  forms have the same length they differ in a bit that counts less and less from
  byte to byte, and the first byte of a longer form is greater.  So the bytes of
  texts compare as the texts do (`ofString_lt_iff`).
-/
import Downlevel.Text.Bytes
import Mathlib.Data.List.Lex
import Mathlib.Data.String.Basic

namespace Downlevel.Bytes

/-! ## Characters -/

section
variable {m n : Nat} (hm : m < 256) (hn : n < 256)
include hm hn

/-- Numbers that fit a byte compare as the bytes do. -/
theorem ofNat_lt_iff : UInt8.ofNat m < UInt8.ofNat n ↔ m < n := by
  rw [UInt8.lt_iff_toNat_lt, UInt8.toNat_ofNat_of_lt' hm, UInt8.toNat_ofNat_of_lt' hn]

theorem ofNat_eq_iff : UInt8.ofNat m = UInt8.ofNat n ↔ m = n := by
  rw [← UInt8.toNat_inj, UInt8.toNat_ofNat_of_lt' hm, UInt8.toNat_ofNat_of_lt' hn]

end

/-- A greater character has greater bytes, whatever stands behind them. -/
theorem utf8EncodeChar_lt {c d : Char} (h : c < d) (s t : Bytes) :
    String.utf8EncodeChar c ++ s < String.utf8EncodeChar d ++ t := by
  have hlt : c.val.toNat < d.val.toNat := h
  have hmax : d.val.toNat < 0x110000 := by
    have hvalid : d.val.toNat < 0xD800 ∨ 0xDFFF < d.val.toNat ∧ d.val.toNat < 0x110000 := d.valid
    omega
  -- a byte carries six bits of the number, which are its digits to the base 64
  have htwo (k : Nat) : k / 4096 = k / 64 / 64 := (Nat.div_div_eq_div_mul k 64 64).symm
  have hthree (k : Nat) : k / 262144 = k / 64 / 64 / 64 := by
    rw [← htwo, Nat.div_div_eq_div_mul]
  simp only [String.utf8EncodeChar, htwo, hthree]
  generalize c.val.toNat = m at hlt ⊢
  generalize d.val.toNat = n at hlt hmax ⊢
  split_ifs <;> simp (disch := omega) only [List.cons_append, List.nil_append,
    List.cons_lt_cons_iff, ofNat_lt_iff, ofNat_eq_iff] <;> omega

theorem utf8EncodeChar_ne_nil (c : Char) : String.utf8EncodeChar c ≠ [] := by
  intro h
  have hlength : c.utf8Size = 0 := by rw [← String.length_utf8EncodeChar, h, List.length_nil]
  exact absurd hlength (Nat.ne_of_gt c.utf8Size_pos)

/-! ## Texts -/

/-- The first character in which two texts differ decides, and a text comes
    before those that go on behind it. -/
theorem ofString_ofList_lt {a b : List Char} (h : a < b) :
    ofString (String.ofList a) < ofString (String.ofList b) := by
  induction h with
  | nil =>
    rename_i c cs
    rw [ofString_ofList_cons]
    cases hc : String.utf8EncodeChar c with
    | nil => exact absurd hc (utf8EncodeChar_ne_nil c)
    | cons => exact List.nil_lt_cons _ _
  | rel hlt =>
    rw [ofString_ofList_cons, ofString_ofList_cons]
    exact utf8EncodeChar_lt hlt _ _
  | cons _ ih =>
    rw [ofString_ofList_cons, ofString_ofList_cons]
    exact List.append_left_lt ih

/-- Texts are in the order of their bytes. -/
theorem ofString_lt_iff {a b : String} : ofString a < ofString b ↔ a < b := by
  have hmono {a b : String} (h : a < b) : ofString a < ofString b := by
    have := ofString_ofList_lt (String.lt_iff.1 h)
    rwa [String.ofList_toList, String.ofList_toList] at this
  refine ⟨fun h => ?_, hmono⟩
  by_contra hnot
  rcases lt_or_eq_of_le (String.not_lt.1 hnot) with hlt | rfl
  · exact List.lt_asymm h (hmono hlt)
  · exact List.lt_irrefl _ h

end Downlevel.Bytes
