/-
  Downlevel — values read back.

  A value whose numbers are integers within 64 bits is written as a document
  that holds exactly this value, if the value is one that documents can hold
  at all (`Value.Nested`).  So what was read, edited and written once is read
  the same for ever after.

  * `value_write`: a written value is read again, whatever follows it;
  * `readValue_write`: whole documents.
-/
import Downlevel.Proofs.Json.Numbers
import Downlevel.Proofs.Json.Texts

namespace Downlevel.Json

/-! ## Values of integers -/

/-- All numbers of a value are integers within 64 bits. -/
inductive Value.Integral : Value → Prop
  | null : Integral .null
  | bool {b} : Integral (.bool b)
  | num {n} : n.Integral → Integral (.num n)
  | str {s} : Integral (.str s)
  | arr {items} : (∀ v ∈ items, Integral v) → Integral (.arr items)
  | obj {entries} : (∀ e ∈ entries, Integral e.2) → Integral (.obj entries)

section
open Value

@[simp] theorem Value.integral_null : Integral .null := .null

@[simp] theorem Value.integral_str (s : String) : Integral (.str s) := .str

@[simp] theorem Value.integral_num_iff {n : Number} : Integral (.num n) ↔ n.Integral :=
  ⟨fun h => by cases h; assumption, .num⟩

@[simp] theorem Value.integral_arr_iff {items : List Value} :
    Integral (.arr items) ↔ ∀ v ∈ items, v.Integral := ⟨fun h => by cases h; assumption, .arr⟩

@[simp] theorem Value.integral_obj_iff {entries : List (String × Value)} :
    Integral (.obj entries) ↔ ∀ e ∈ entries, e.2.Integral :=
  ⟨fun h => by cases h; assumption, .obj⟩

end

theorem Value.Integral.insert {o : Object} (h : (ofObject o).Integral) {v : Value}
    (hv : v.Integral) (key : String) : (ofObject (o.insert key v)).Integral := by
  have hentries := Value.integral_obj_iff.1 h
  refine .obj fun e he => ?_
  rcases Entries.mem_of_mem_insert he with rfl | he
  · exact hv
  · exact hentries e he

/-- The same of a value without parts. -/
def Scalar.Integral : Scalar → Prop
  | .num n => n.Integral
  | _ => True

/-! ## How a written value starts -/

/-- A value without parts may start with this byte. -/
def startsScalar (b : UInt8) : Bool :=
  b = 0x6E || b = 0x74 || b = 0x66 || b = minusByte || isDigitByte b || b = quoteByte

/-- Such a byte is no blank and no bracket. -/
theorem not_blank_of_startsScalar {b : UInt8} (h : startsScalar b = true) :
    isBlankByte b = false ∧ b ≠ closeArray ∧ b ≠ openArray ∧ b ≠ openObject := by
  have hall : ∀ n < 256, startsScalar (UInt8.ofNat n) = true →
      isBlankByte (UInt8.ofNat n) = false ∧ UInt8.ofNat n ≠ closeArray ∧
        UInt8.ofNat n ≠ openArray ∧ UInt8.ofNat n ≠ openObject := by decide +kernel
  have hb := hall b.toNat (UInt8.toNat_lt b)
  rw [UInt8.ofNat_toNat] at hb
  exact hb h

theorem writeNumber_start {n : Number} (h : n.Integral) :
    ∃ b bytes, writeNumber n = b :: bytes ∧ (b = minusByte ∨ isDigitByte b = true) := by
  cases h with
  | negativeZero => exact ⟨minusByte, [0x30, 0x2E, 0x30], by decide, .inl rfl⟩
  | @int n =>
    obtain ⟨d, ds, hds⟩ := List.exists_cons_of_ne_nil (Decimal.digits_ne_nil n.natAbs)
    have hd : d < 10 := Decimal.lt_ten_of_mem_digits (hds ▸ List.mem_cons_self)
    rw [writeNumber_int, hds]
    split
    · exact ⟨_, _, rfl, .inl rfl⟩
    · exact ⟨_, _, rfl, .inr (isDigitByte_digitByte hd)⟩

theorem write_scalar_start {s : Scalar} (h : s.Integral) :
    ∃ b bytes, write (.ofScalar s) = b :: bytes ∧ startsScalar b = true := by
  cases s with
  | null => exact ⟨_, _, rfl, by decide⟩
  | bool b => cases b <;> exact ⟨_, _, rfl, by decide⟩
  | str s => exact ⟨_, _, rfl, by decide⟩
  | num n =>
    obtain ⟨b, bytes, hwrite, hb⟩ := writeNumber_start h
    refine ⟨b, bytes, hwrite, ?_⟩
    rcases hb with rfl | hb
    · decide
    · simp [startsScalar, hb]

theorem write_start {v : Value} (h : v.Integral) :
    ∃ b bytes, write v = b :: bytes ∧ isBlankByte b = false ∧ b ≠ closeArray := by
  have hscalar (s : Scalar) (hs : s.Integral) :
      ∃ b bytes, write (.ofScalar s) = b :: bytes ∧ isBlankByte b = false ∧ b ≠ closeArray := by
    obtain ⟨b, bytes, hwrite, hb⟩ := write_scalar_start hs
    obtain ⟨hblank, hclose, -, -⟩ := not_blank_of_startsScalar hb
    exact ⟨b, bytes, hwrite, hblank, hclose⟩
  cases h with
  | null => exact hscalar .null trivial
  | bool => exact hscalar (.bool _) trivial
  | num hn => exact hscalar (.num _) hn
  | str => exact hscalar (.str _) trivial
  | arr => exact ⟨_, _, rfl, by decide, by decide⟩
  | obj => exact ⟨_, _, rfl, by decide, by decide⟩

theorem skipBlanks_cons {b : UInt8} (h : isBlankByte b = false) (rest : Bytes) :
    skipBlanks (b :: rest) = b :: rest := by
  rw [skipBlanks, List.dropWhile_cons, if_neg (by rw [h]; exact Bool.false_ne_true)]

/-! ## Values without parts -/

theorem scalar_write {s : Scalar} (h : s.Integral) {rest : Bytes} (hrest : Ends rest) :
    scalar (write (.ofScalar s) ++ rest) = .ok (s, rest) := by
  cases s with
  | null => rfl
  | bool b => cases b <;> rfl
  | str s =>
    have hread : scalar (quoteByte :: ((Bytes.ofString s).flatMap writeByte ++ quoteByte :: rest)) =
        .ok (.str s, rest) := by
      rw [scalar, string_write]
      rfl
    simpa [Value.ofScalar, write, writeString] using hread
  | num n =>
    obtain ⟨b, bytes, hwrite, hb⟩ := writeNumber_start h
    have hread := number_write hrest h
    have hletters : b ≠ 0x6E ∧ b ≠ 0x74 ∧ b ≠ 0x66 := by
      refine ⟨?_, ?_, ?_⟩ <;> rintro rfl <;> revert hb <;> decide
    rw [hwrite, List.cons_append] at hread
    rw [Value.ofScalar, write, hwrite, List.cons_append, scalar, if_neg hletters.1,
      if_neg hletters.2.1, if_neg hletters.2.2, if_pos (by simpa using hb), hread, ok_bind]

theorem valueOver_scalar (inner : Option (Bytes → Except Stop (Value × Bytes))) {s : Scalar}
    (h : s.Integral) {rest : Bytes} (hrest : Ends rest) :
    valueOver inner (write (.ofScalar s) ++ rest) = .ok (.ofScalar s, rest) := by
  obtain ⟨b, bytes, hwrite, hb⟩ := write_scalar_start h
  obtain ⟨hblank, -, harray, hobject⟩ := not_blank_of_startsScalar hb
  have hread := scalar_write h hrest
  rw [hwrite, List.cons_append] at hread ⊢
  rw [valueOver, skipBlanks_cons hblank]
  dsimp only
  rw [if_neg harray, if_neg hobject, hread, ok_bind]

theorem value_scalar (depth : Nat) {s : Scalar} (h : s.Integral) {rest : Bytes}
    (hrest : Ends rest) : value depth (write (.ofScalar s) ++ rest) = .ok (.ofScalar s, rest) := by
  cases depth with
  | zero => exact valueOver_scalar none h hrest
  | succ depth => exact valueOver_scalar (some (value depth)) h hrest

/-! ## Arrays and objects -/

/-- No number goes on behind an item or an entry. -/
theorem ends_writeMoreItems (vs : List Value) (rest : Bytes) :
    Ends (writeMoreItems vs ++ rest) := by
  cases vs <;> exact ⟨by decide, by decide, by decide⟩

theorem ends_writeMoreEntries (es : List (String × Value)) (rest : Bytes) :
    Ends (writeMoreEntries es ++ rest) := by
  rcases es with _ | ⟨⟨key, v⟩, es⟩ <;> exact ⟨by decide, by decide, by decide⟩

/-- There is a byte at least for each item, and the bracket. -/
theorem length_lt_writeMoreItems (vs : List Value) (rest : Bytes) :
    vs.length < (writeMoreItems vs ++ rest).length := by
  induction vs with
  | nil => exact Nat.zero_lt_succ _
  | cons v vs ih =>
    simp only [writeMoreItems, List.length_cons, List.length_append] at ih ⊢
    omega

theorem length_lt_writeMoreEntries (es : List (String × Value)) (rest : Bytes) :
    es.length < (writeMoreEntries es ++ rest).length := by
  induction es with
  | nil => exact Nat.zero_lt_succ _
  | cons e es ih =>
    simp only [writeMoreEntries, List.length_cons, List.length_append] at ih ⊢
    omega

section
variable {item : Bytes → Except Stop (Value × Bytes)}

theorem moreItems_write {vs : List Value} (hint : ∀ v ∈ vs, v.Integral)
    (hitem : ∀ v ∈ vs, ∀ {rest}, Ends rest → item (write v ++ rest) = .ok (v, rest)) {fuel : Nat}
    (hfuel : vs.length < fuel) (rest : Bytes) :
    moreItems item fuel (writeMoreItems vs ++ rest) = .ok (vs, rest) := by
  induction vs generalizing fuel with
  | nil =>
    obtain ⟨fuel, rfl⟩ := Nat.exists_eq_add_one.2 hfuel
    rfl
  | cons v vs ih =>
    obtain ⟨fuel, rfl⟩ := Nat.exists_eq_add_one.2 (Nat.zero_lt_of_lt hfuel)
    obtain ⟨hintv, hints⟩ := List.forall_mem_cons.1 hint
    obtain ⟨hv, hvs⟩ := List.forall_mem_cons.1 hitem
    obtain ⟨b, bytes, hwrite, hblank, hclose⟩ := write_start hintv
    have hread := hv (ends_writeMoreItems vs rest)
    rw [hwrite, List.cons_append] at hread
    rw [writeMoreItems, List.cons_append, moreItems, skipBlanks_cons (by decide)]
    dsimp only
    rw [if_neg (by decide), if_pos rfl, List.append_assoc, hwrite, List.cons_append,
      skipBlanks_cons hblank]
    dsimp only
    rw [if_neg hclose, hread, ok_bind]
    dsimp only
    rw [ih hints hvs (Nat.lt_of_succ_lt_succ hfuel), ok_bind]

theorem arrayItems_write {vs : List Value} (hint : ∀ v ∈ vs, v.Integral)
    (hitem : ∀ v ∈ vs, ∀ {rest}, Ends rest → item (write v ++ rest) = .ok (v, rest))
    (rest : Bytes) : arrayItems item (writeItems vs ++ rest) = .ok (vs, rest) := by
  cases vs with
  | nil => rfl
  | cons v vs =>
    obtain ⟨hintv, hints⟩ := List.forall_mem_cons.1 hint
    obtain ⟨hv, hvs⟩ := List.forall_mem_cons.1 hitem
    obtain ⟨b, bytes, hwrite, hblank, hclose⟩ := write_start hintv
    have hread := hv (ends_writeMoreItems vs rest)
    rw [hwrite, List.cons_append] at hread
    rw [writeItems, List.append_assoc, hwrite, List.cons_append, arrayItems, skipBlanks_cons hblank]
    dsimp only
    rw [if_neg hclose, hread, ok_bind]
    dsimp only
    rw [moreItems_write hints hvs (length_lt_writeMoreItems vs rest), ok_bind]

/-- A member is read behind the mark that opens its key. -/
theorem member_write {v : Value} {rest : Bytes} (hv : item (write v ++ rest) = .ok (v, rest))
    (key : String) :
    member item ((Bytes.ofString key).flatMap writeByte ++ quoteByte ::
      (colonByte :: (write v ++ rest))) = .ok ((key, v), rest) := by
  rw [member, string_write, ok_bind]
  dsimp only
  rw [colon, skipBlanks_cons (by decide)]
  dsimp only
  rw [if_pos rfl, ok_bind]
  dsimp only
  rw [hv, ok_bind]

theorem moreMembers_write {es : List (String × Value)}
    (hitem : ∀ e ∈ es, ∀ {rest}, Ends rest → item (write e.2 ++ rest) = .ok (e.2, rest))
    {fuel : Nat} (hfuel : es.length < fuel) (rest : Bytes) :
    moreMembers item fuel (writeMoreEntries es ++ rest) = .ok (es, rest) := by
  induction es generalizing fuel with
  | nil =>
    obtain ⟨fuel, rfl⟩ := Nat.exists_eq_add_one.2 hfuel
    rfl
  | cons e es ih =>
    obtain ⟨key, v⟩ := e
    obtain ⟨fuel, rfl⟩ := Nat.exists_eq_add_one.2 (Nat.zero_lt_of_lt hfuel)
    obtain ⟨hv, hes⟩ := List.forall_mem_cons.1 hitem
    have hread := member_write (hv (ends_writeMoreEntries es rest)) key
    rw [writeMoreEntries, writeString]
    simp only [List.cons_append, List.append_assoc, List.nil_append]
    rw [moreMembers, skipBlanks_cons (by decide)]
    dsimp only
    rw [if_neg (by decide), if_pos rfl, skipBlanks_cons (by decide)]
    dsimp only
    rw [if_pos rfl, hread, ok_bind]
    dsimp only
    rw [ih hes (Nat.lt_of_succ_lt_succ hfuel), ok_bind]

theorem objectMembers_write {es : List (String × Value)}
    (hitem : ∀ e ∈ es, ∀ {rest}, Ends rest → item (write e.2 ++ rest) = .ok (e.2, rest))
    (rest : Bytes) : objectMembers item (writeEntries es ++ rest) = .ok (es, rest) := by
  cases es with
  | nil => rfl
  | cons e es =>
    obtain ⟨key, v⟩ := e
    obtain ⟨hv, hes⟩ := List.forall_mem_cons.1 hitem
    have hread := member_write (hv (ends_writeMoreEntries es rest)) key
    rw [writeEntries, writeString]
    simp only [List.cons_append, List.append_assoc, List.nil_append]
    rw [objectMembers, skipBlanks_cons (by decide)]
    dsimp only
    rw [if_neg (by decide), if_pos rfl, hread, ok_bind]
    dsimp only
    rw [moreMembers_write hes (length_lt_writeMoreEntries es rest), ok_bind]

end

/-! ## Values -/

/-- A value of integers, written, is read again. -/
theorem value_write {depth : Nat} {v : Value} (h : v.Nested depth) (hint : v.Integral)
    {rest : Bytes} (hrest : Ends rest) : value depth (write v ++ rest) = .ok (v, rest) := by
  induction h generalizing rest with
  | null => exact value_scalar _ (s := .null) trivial hrest
  | bool => exact value_scalar _ (s := .bool _) trivial hrest
  | num => exact value_scalar _ (s := .num _) (Value.integral_num_iff.1 hint) hrest
  | str => exact value_scalar _ (s := .str _) trivial hrest
  | @arr depth items hitems ih =>
    have hint := Value.integral_arr_iff.1 hint
    have hread := arrayItems_write hint (fun v hv _ => ih v hv (hint v hv)) rest
    rw [write, List.cons_append, value, valueOver, skipBlanks_cons (by decide)]
    dsimp only
    rw [if_pos rfl, hread, ok_bind]
  | @obj depth entries hascending hentries ih =>
    have hint := Value.integral_obj_iff.1 hint
    have hread := objectMembers_write (fun e he _ => ih e he (hint e he)) rest
    rw [write, List.cons_append, value, valueOver, skipBlanks_cons (by decide)]
    dsimp only
    rw [if_neg (by decide), if_pos rfl, hread, ok_bind]
    dsimp only
    rw [hascending.ofPairs_eq]

/-- A written document holds the value that was written. -/
theorem readValue_write {v : Value} (h : v.Nested maxDepth) (hint : v.Integral) :
    readValue (write v) = .ok v := by
  have hread : value maxDepth (write v ++ []) = .ok (v, []) := value_write h hint trivial
  rw [List.append_nil] at hread
  exact readWhole_eq_ok_iff.2 ⟨[], hread, rfl⟩

end Downlevel.Json
