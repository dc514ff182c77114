/-
  Downlevel — integers read back.

  An integer within 64 bits is written as its decimal digits, with a minus sign
  in front of a negative one, and read off them again.  The literal `-0` is an
  integer too, but it is read as the floating-point number of that sign, which
  is written `-0.0`; that one reads back as well.

  * `Number.Integral`: what an integer within 64 bits is read as;
  * `number_write`: written, it is read again, whatever follows that is no
    part of a number (`Ends`).
-/
import Downlevel.Json.Write
import Downlevel.Proofs.Json.Reading

namespace Downlevel.Json

/-- What an integer literal within 64 bits is read as. -/
inductive Number.Integral : Number → Prop
  | int {n : Int} : -(Nat.pow 2 63 : Int) ≤ n → n < (Nat.pow 2 64 : Int) → Integral (.int n)
  | negativeZero : Integral (.float (-Float.ofNat 0))

@[simp] theorem Number.integral_int_iff {n : Int} :
    (int n).Integral ↔ -(Nat.pow 2 63 : Int) ≤ n ∧ n < (Nat.pow 2 64 : Int) :=
  ⟨fun h => by cases h; exact ⟨‹_›, ‹_›⟩, fun h => .int h.1 h.2⟩

@[simp] theorem Number.integral_negativeZero : (float (-Float.ofNat 0)).Integral := .negativeZero

/-- Nothing that continues a number comes next. -/
def Ends : Bytes → Prop
  | [] => True
  | b :: _ => isDigitByte b = false ∧ b ≠ 0x2E ∧ isExponentLetter b = false

/-! ## Digits -/

/-- The byte of a digit. -/
def digitByte (d : Nat) : UInt8 := UInt8.ofNat (d + 0x30)

section
variable {d : Nat} (h : d < 10)
include h

theorem utf8EncodeChar_digitChar : String.utf8EncodeChar (Decimal.digitChar d) = [digitByte d] := by
  revert d
  decide

theorem isDigitByte_digitByte : isDigitByte (digitByte d) = true := by
  revert d
  decide

theorem digitValue_digitByte : digitValue (digitByte d) = d := by
  revert d
  decide

theorem digitByte_ne_minusByte : digitByte d ≠ minusByte := by
  revert d
  decide

theorem digitByte_ne_zero (hd : d ≠ 0) : digitByte d ≠ 0x30 := by
  revert d
  decide

end

theorem ofString_digits {ds : List Nat} (h : ∀ d ∈ ds, d < 10) :
    Bytes.ofString (String.ofList (ds.map Decimal.digitChar)) = ds.map digitByte := by
  induction ds with
  | nil => rfl
  | cons d ds ih =>
    obtain ⟨hd, hds⟩ := List.forall_mem_cons.1 h
    rw [List.map_cons, Bytes.ofString_ofList_cons, utf8EncodeChar_digitChar hd, ih hds]
    rfl

/-- A number in decimal as bytes. -/
theorem ofString_text (n : Nat) :
    Bytes.ofString (String.ofList (Decimal.text n)) = (Decimal.digits n).map digitByte :=
  ofString_digits fun _ => Decimal.lt_ten_of_mem_digits

theorem writeNumber_int (n : Int) :
    writeNumber (.int n) =
      (if n < 0 then [minusByte] else []) ++ (Decimal.digits n.natAbs).map digitByte := by
  rw [writeNumber, Number.text]
  split
  · rw [List.singleton_append, Bytes.ofString_ofList_cons, ofString_text]
    rfl
  · rw [List.nil_append, List.nil_append, ofString_text]

/-- Zero over ten is zero, exactly. -/
theorem floating_zero (negative : Bool) (rest : Bytes) :
    floating negative 0 (-1) rest = .ok (.float (signed negative (Float.ofNat 0)), rest) := by
  have hshrink : shrink (Float.ofNat 0) 1 = Float.ofNat 0 := by
    rw [shrink]
    decide
  have hscaled : scaled? 0 (-1) = some (Float.ofNat 0) := congrArg some hshrink
  rw [floating, hscaled]

/-! ## Reading the digits -/

section
variable {rest : Bytes} (hrest : Ends rest)
include hrest

theorem startsWithDigit_of_ends : startsWithDigit rest = false := by
  cases rest with
  | nil => rfl
  | cons b rest => exact hrest.1

theorem skipDigits_of_ends : skipDigits rest = (0, rest) := by
  cases rest with
  | nil => rfl
  | cons b rest => simp [skipDigits, hrest.1]

theorem afterWhole_of_ends (negative : Bool) (n : Nat) :
    afterWhole negative n 0 rest = .ok (integer negative n, rest) := by
  cases rest with
  | nil => rfl
  | cons b rest => simp [afterWhole, hrest.2.1, hrest.2.2]

/-- All digits are taken if the number they make stays below the bound. -/
theorem takeDigits_digits {bound n used : Nat} {ds : List Nat} (h : ∀ d ∈ ds, d < 10)
    (hbound : ds.foldl (fun n d => n * 10 + d) n < bound) :
    takeDigits bound n used (ds.map digitByte ++ rest) =
      (ds.foldl (fun n d => n * 10 + d) n, used + ds.length, rest) := by
  induction ds generalizing n used with
  | nil =>
    cases rest with
    | nil => rfl
    | cons b rest => simp [takeDigits, hrest.1]
  | cons d ds ih =>
    obtain ⟨hd, hds⟩ := List.forall_mem_cons.1 h
    have hfits : n * 10 + d < bound :=
      Nat.lt_of_le_of_lt (Decimal.le_foldl_digits (n * 10 + d) ds) hbound
    have hstep : takeDigits bound (n * 10 + d) (used + 1) (ds.map digitByte ++ rest) =
        (ds.foldl (fun n d => n * 10 + d) (n * 10 + d), used + 1 + ds.length, rest) := ih hds hbound
    simp only [List.map_cons, List.cons_append, takeDigits, isDigitByte_digitByte hd,
      digitValue_digitByte hd, hfits, decide_true, Bool.and_self, if_true, hstep, List.foldl_cons,
      List.length_cons, Nat.add_assoc, Nat.add_comm 1]

theorem wholeDigits_digits (negative : Bool) {n : Nat} (hn : n < significandBound) :
    wholeDigits negative ((Decimal.digits n).map digitByte ++ rest) =
      .ok (integer negative n, rest) := by
  by_cases hzero : n = 0
  · have hdigits : (Decimal.digits 0).map digitByte = [0x30] := by
      rw [Decimal.digits]
      rfl
    rw [hzero, hdigits]
    simp [wholeDigits, startsWithDigit_of_ends hrest, afterWhole_of_ends hrest]
  · obtain ⟨d, ds, hds, hd⟩ := Decimal.digits_eq_cons hzero
    have hlt : ∀ d ∈ Decimal.digits n, d < 10 := fun _ => Decimal.lt_ten_of_mem_digits
    have hvalue : (Decimal.digits n).foldl (fun n d => n * 10 + d) 0 = n :=
      Decimal.ofDigits_digits n
    have htake : takeDigits significandBound 0 0 ((Decimal.digits n).map digitByte ++ rest) =
        (n, 0 + (Decimal.digits n).length, rest) := by
      rw [takeDigits_digits hrest hlt (hvalue.symm ▸ hn), hvalue]
    have hfirst : d < 10 := hlt d (hds ▸ List.mem_cons_self)
    rw [hds, List.map_cons, List.cons_append] at htake
    rw [hds, List.map_cons, List.cons_append, wholeDigits, if_neg (digitByte_ne_zero hfirst hd),
      if_pos (isDigitByte_digitByte hfirst)]
    simp only [htake, skipDigits_of_ends hrest, afterWhole_of_ends hrest]

/-! ## Reading a number -/

/-- The negative zero is written with a point, and read with it. -/
theorem number_negativeZero :
    number (writeNumber (.float (-Float.ofNat 0)) ++ rest) =
      .ok (.float (-Float.ofNat 0), rest) := by
  have hwrite : writeNumber (.float (-Float.ofNat 0)) = [minusByte, 0x30, 0x2E, 0x30] := by
    decide
  have htake : takeDigits significandBound 0 0 (0x30 :: rest) = (0, 1, rest) :=
    @takeDigits_digits rest hrest significandBound 0 0 [0] (by decide) (by decide)
  have hfraction : fractionDigits true 0 0 (0x30 :: rest) =
      .ok (.float (-Float.ofNat 0), rest) := by
    rw [fractionDigits, htake]
    dsimp only
    rw [skipDigits_of_ends hrest]
    cases rest with
    | nil => exact floating_zero true _
    | cons b rest =>
      dsimp only
      rw [if_neg (by decide), if_neg (by simp [hrest.2.2])]
      exact floating_zero true _
  have hpoint : startsWithDigit (0x2E :: 0x30 :: rest) = false := rfl
  rw [hwrite]
  simpa [number, wholeDigits, hpoint, afterWhole] using hfraction

/-- An integer within 64 bits reads back. -/
theorem number_write {n : Number} (h : n.Integral) :
    number (writeNumber n ++ rest) = .ok (n, rest) := by
  cases h with
  | negativeZero => exact number_negativeZero hrest
  | @int n hlow hhigh =>
    have hpow : Nat.pow 2 63 < Nat.pow 2 64 := by decide
    have hbound : n.natAbs < Nat.pow 2 64 := by omega
    rw [writeNumber_int]
    by_cases hneg : n < 0
    · have hinteger : integer true n.natAbs = .int n := by
        have hfits : ¬ (n.natAbs = 0 ∨ Nat.pow 2 63 < n.natAbs) := by omega
        rw [integer, if_pos rfl, if_neg hfits, Int.ofNat_natAbs_of_nonpos (Int.le_of_lt hneg),
          Int.neg_neg]
      rw [if_pos hneg, List.singleton_append, List.cons_append, number, if_pos rfl,
        wholeDigits_digits hrest true hbound, hinteger]
    · have hinteger : integer false n.natAbs = .int n := by
        rw [integer, if_neg Bool.false_ne_true, Int.natAbs_of_nonneg (Int.not_lt.1 hneg)]
      obtain ⟨d, ds, hds⟩ := List.exists_cons_of_ne_nil (Decimal.digits_ne_nil n.natAbs)
      have hd : d < 10 := Decimal.lt_ten_of_mem_digits (hds ▸ List.mem_cons_self)
      have hread := wholeDigits_digits hrest false hbound
      rw [hds, List.map_cons, List.cons_append, hinteger] at hread
      rw [if_neg hneg, List.nil_append, hds, List.map_cons, List.cons_append, number,
        if_neg (digitByte_ne_minusByte hd), hread]

end

end Downlevel.Json
