/-
  Downlevel — what a document can hold.

  Whatever is read off a document is nested no deeper than the reader allows,
  and the keys of its objects ascend (`Value.Nested`).  The two readers of
  documents agree: one yields an object exactly if the other one yields it as
  a value.

  * `value_nested`, `readValue_nested`: the shape of what was read;
  * `readObject_eq_ok_iff`: a document with an object, read either way.
-/
import Downlevel.Json.Read.Value

namespace Downlevel.Json

/-! ## One part after another -/

section
variable {ε α β : Type}

@[simp] theorem ok_bind (a : α) (f : α → Except ε β) : (Except.ok a >>= f) = f a := rfl

theorem bind_eq_ok_iff {x : Except ε α} {f : α → Except ε β} {b : β} :
    (x >>= f) = .ok b ↔ ∃ a, x = .ok a ∧ f a = .ok b := by
  cases x with
  | error e => exact ⟨nofun, nofun⟩
  | ok a => simp

end

/-- A whole document was read exactly if only blanks follow what was read. -/
theorem readWhole_eq_ok_iff {α : Type} {read : Bytes → Except Stop (α × Bytes)} {document : Bytes}
    {a : α} :
    readWhole read document = .ok a ↔
      ∃ rest, read document = .ok (a, rest) ∧ skipBlanks rest = [] := by
  have hfinish : finish (read document) = .ok a ↔
      ∃ rest, read document = .ok (a, rest) ∧ skipBlanks rest = [] := by
    rw [finish, bind_eq_ok_iff]
    constructor
    · rintro ⟨⟨a', rest⟩, hread, h⟩
      dsimp only at h
      split at h
      · rename_i hblank
        cases h
        exact ⟨rest, hread, hblank⟩
      · cases h
    · rintro ⟨rest, hread, hblank⟩
      exact ⟨(a, rest), hread, by simp only [hblank]⟩
  rw [← hfinish, readWhole]
  cases finish (read document) with
  | error stop => exact ⟨nofun, nofun⟩
  | ok a' =>
    exact ⟨fun h => congrArg Except.ok (Except.ok.inj h),
      fun h => congrArg Except.ok (Except.ok.inj h)⟩

/-! ## The shape of a value -/

/-- Arrays and objects are nested at most `depth` deep, and the keys of every
    object ascend. -/
inductive Value.Nested : Nat → Value → Prop
  | null {depth} : Nested depth .null
  | bool {depth b} : Nested depth (.bool b)
  | num {depth n} : Nested depth (.num n)
  | str {depth s} : Nested depth (.str s)
  | arr {depth items} : (∀ v ∈ items, Nested depth v) → Nested (depth + 1) (.arr items)
  | obj {depth entries} : Entries.Ascending entries → (∀ e ∈ entries, Nested depth e.2) →
      Nested (depth + 1) (.obj entries)

theorem Value.nested_ofScalar (depth : Nat) (s : Scalar) : (Value.ofScalar s).Nested depth := by
  cases s <;> constructor

section
variable {item : Bytes → Except Stop (Value × Bytes)} {P : Value → Prop}
  (hitem : ∀ {input v rest}, item input = .ok (v, rest) → P v)
include hitem

theorem moreItems_all {fuel : Nat} {input rest : Bytes} {vs : List Value}
    (h : moreItems item fuel input = .ok (vs, rest)) : ∀ v ∈ vs, P v := by
  induction fuel generalizing input vs with
  | zero => cases h
  | succ fuel ih =>
    simp only [moreItems] at h
    split at h
    · cases h
    split at h
    · cases h
      exact nofun
    split at h
    · split at h
      · cases h
      split at h
      · cases h
      obtain ⟨⟨v, after⟩, hv, h⟩ := bind_eq_ok_iff.1 h
      obtain ⟨⟨vs, after'⟩, hvs, h⟩ := bind_eq_ok_iff.1 h
      cases h
      exact List.forall_mem_cons.2 ⟨hitem hv, ih hvs⟩
    · cases h

theorem arrayItems_all {input rest : Bytes} {vs : List Value}
    (h : arrayItems item input = .ok (vs, rest)) : ∀ v ∈ vs, P v := by
  simp only [arrayItems] at h
  split at h
  · cases h
  split at h
  · cases h
    exact nofun
  obtain ⟨⟨v, after⟩, hv, h⟩ := bind_eq_ok_iff.1 h
  obtain ⟨⟨vs, after'⟩, hvs, h⟩ := bind_eq_ok_iff.1 h
  cases h
  exact List.forall_mem_cons.2 ⟨hitem hv, moreItems_all hitem hvs⟩

theorem member_all {input rest : Bytes} {m : String × Value}
    (h : member item input = .ok (m, rest)) : P m.2 := by
  obtain ⟨⟨key, after⟩, -, h⟩ := bind_eq_ok_iff.1 h
  obtain ⟨⟨⟨⟩, after'⟩, -, h⟩ := bind_eq_ok_iff.1 h
  obtain ⟨⟨v, after''⟩, hv, h⟩ := bind_eq_ok_iff.1 h
  cases h
  exact hitem hv

theorem moreMembers_all {fuel : Nat} {input rest : Bytes} {ms : List (String × Value)}
    (h : moreMembers item fuel input = .ok (ms, rest)) : ∀ m ∈ ms, P m.2 := by
  induction fuel generalizing input ms with
  | zero => cases h
  | succ fuel ih =>
    simp only [moreMembers] at h
    split at h
    · cases h
    split at h
    · cases h
      exact nofun
    split at h
    · split at h
      · cases h
      split at h
      · obtain ⟨⟨m, after⟩, hm, h⟩ := bind_eq_ok_iff.1 h
        obtain ⟨⟨ms, after'⟩, hms, h⟩ := bind_eq_ok_iff.1 h
        cases h
        exact List.forall_mem_cons.2 ⟨member_all hitem hm, ih hms⟩
      split at h <;> cases h
    · cases h

theorem objectMembers_all {input rest : Bytes} {ms : List (String × Value)}
    (h : objectMembers item input = .ok (ms, rest)) : ∀ m ∈ ms, P m.2 := by
  simp only [objectMembers] at h
  split at h
  · cases h
  split at h
  · cases h
    exact nofun
  split at h
  · obtain ⟨⟨m, after⟩, hm, h⟩ := bind_eq_ok_iff.1 h
    obtain ⟨⟨ms, after'⟩, hms, h⟩ := bind_eq_ok_iff.1 h
    cases h
    exact List.forall_mem_cons.2 ⟨member_all hitem hm, moreMembers_all hitem hms⟩
  · cases h

end

/-- What may be read inside decides how deep the whole is nested. -/
theorem valueOver_nested {inner : Option (Bytes → Except Stop (Value × Bytes))} {depth : Nat}
    (hinner : ∀ item, inner = some item → ∃ d, depth = d + 1 ∧
      ∀ {input v rest}, item input = .ok (v, rest) → v.Nested d)
    {input rest : Bytes} {v : Value} (h : valueOver inner input = .ok (v, rest)) :
    v.Nested depth := by
  simp only [valueOver] at h
  split at h
  · cases h
  split at h
  · split at h
    · cases h
    · obtain ⟨d, rfl, hitem⟩ := hinner _ rfl
      obtain ⟨⟨vs, after⟩, hvs, h⟩ := bind_eq_ok_iff.1 h
      cases h
      exact .arr (arrayItems_all hitem hvs)
  split at h
  · split at h
    · cases h
    · obtain ⟨d, rfl, hitem⟩ := hinner _ rfl
      obtain ⟨⟨ms, after⟩, hms, h⟩ := bind_eq_ok_iff.1 h
      cases h
      exact .obj (Entries.ascending_ofPairs ms) fun e he =>
        objectMembers_all hitem hms e (Entries.mem_of_mem_ofPairs he)
  · obtain ⟨⟨s, after⟩, -, h⟩ := bind_eq_ok_iff.1 h
    cases h
    exact Value.nested_ofScalar depth s

/-- Whatever is read keeps to the depth. -/
theorem value_nested {depth : Nat} {input rest : Bytes} {v : Value}
    (h : value depth input = .ok (v, rest)) : v.Nested depth := by
  induction depth generalizing input v rest with
  | zero => exact valueOver_nested (fun _ hitem => by cases hitem) h
  | succ depth ih =>
    refine valueOver_nested (fun item hitem => ⟨depth, rfl, fun h => ?_⟩) h
    cases hitem
    exact ih h

theorem readValue_nested {document : Bytes} {v : Value} (h : readValue document = .ok v) :
    v.Nested maxDepth := by
  obtain ⟨rest, hread, -⟩ := readWhole_eq_ok_iff.1 h
  exact value_nested hread

/-- A value with a field is an object. -/
theorem Value.Nested.exists_object {depth : Nat} {v w : Value} (h : v.Nested depth) {key : String}
    (hfield : v.field? key = some w) : ∃ o : Object, v = .ofObject o ∧ o.find? key = some w := by
  cases h with
  | obj hascending => exact ⟨⟨_, hascending⟩, rfl, hfield⟩
  | null | bool | num | str | arr => cases hfield

theorem Value.Nested.insert {depth : Nat} {o : Object} (h : (ofObject o).Nested (depth + 1))
    {v : Value} (hv : v.Nested depth) (key : String) :
    (ofObject (o.insert key v)).Nested (depth + 1) := by
  cases h with
  | obj _ hentries =>
    refine .obj (o.insert key v).ascending fun e he => ?_
    rcases Entries.mem_of_mem_insert he with rfl | he
    · exact hv
    · exact hentries e he

/-! ## Documents that hold an object -/

theorem wrongKind_ne_ok {α : Type} (needed : Needed) (input : Bytes) (result : α × Bytes) :
    wrongKind needed input ≠ .ok result := by
  intro h
  unfold wrongKind at h
  split at h
  · cases h
  split at h
  · cases h
  split at h
  · cases h
  · obtain ⟨⟨s, rest⟩, -, h⟩ := bind_eq_ok_iff.1 h
    cases h

theorem Value.ofScalar_ne_ofObject (s : Scalar) (o : Object) : Value.ofScalar s ≠ .ofObject o := by
  cases s <;> exact nofun

/-- The reader of objects reads those values that are objects. -/
theorem object_eq_ok_iff {input rest : Bytes} {o : Object} :
    object input = .ok (o, rest) ↔ value maxDepth input = .ok (.ofObject o, rest) := by
  have hvalue : value maxDepth input = valueOver (some (value (maxDepth - 1))) input := rfl
  rw [hvalue, object, valueOver]
  rcases skipBlanks input with _ | ⟨b, after⟩
  · exact ⟨nofun, nofun⟩
  dsimp only
  by_cases hobject : b = openObject
  · have harray : b ≠ openArray := by
      rw [hobject]
      decide
    rw [if_pos hobject, if_neg harray, if_pos hobject, bind_eq_ok_iff, bind_eq_ok_iff]
    constructor
    · rintro ⟨⟨ms, after'⟩, hms, h⟩
      cases h
      exact ⟨_, hms, rfl⟩
    · rintro ⟨⟨ms, after'⟩, hms, h⟩
      injection h with h
      injection h with hobj hrest
      injection hobj with hentries
      exact ⟨_, hms, by rw [hrest, Table.ext_entries (t := .ofPairs ms) hentries]⟩
  rw [if_neg hobject, if_neg hobject]
  refine ⟨fun h => absurd h (wrongKind_ne_ok _ _ _), fun h => ?_⟩
  split at h
  · obtain ⟨⟨vs, after'⟩, -, h⟩ := bind_eq_ok_iff.1 h
    cases h
  · obtain ⟨⟨s, after'⟩, -, h⟩ := bind_eq_ok_iff.1 h
    injection h with h
    injection h with hs
    exact absurd hs (Value.ofScalar_ne_ofObject s o)

theorem readObject_eq_ok_iff {document : Bytes} {o : Object} :
    readObject document = .ok o ↔ readValue document = .ok (.ofObject o) := by
  rw [readObject, readValue, readWhole_eq_ok_iff, readWhole_eq_ok_iff]
  simp only [object_eq_ok_iff]

end Downlevel.Json
