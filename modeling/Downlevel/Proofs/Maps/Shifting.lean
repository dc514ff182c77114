/-
  Downlevel — maps moved down again and again.

  A map that can be moved one line down can be moved by any number of lines,
  and a map that cannot be moved fails at once.  What carries this is that the
  moved map is read as the object that was written: the same entries, and one
  more semicolon in front of the mappings.

  * `shift_mappings`: what one shift does to a map with mappings;
  * `shiftTimes_mappings`: what any number of them does;
  * `shiftTimes_outcome`: the outcome of repeated shifts for every sequence of
    bytes.
-/
import Downlevel.Maps.Shift
import Downlevel.Proofs.Json.RoundTrip

namespace Downlevel.SourceMap

open Json (readValue readObject writeObject)

/-! ## Maps with mappings -/

/-- The mappings of so many lines in which nothing is mapped. -/
def emptyLines (n : Nat) : String := String.ofList (List.replicate n ';')

/-- An empty line more in front of empty lines. -/
theorem emptyLines_append (n : Nat) (mappings : String) :
    emptyLines n ++ (";" ++ mappings) = emptyLines (n + 1) ++ mappings := by
  have hsucc : emptyLines (n + 1) = emptyLines n ++ ";" := by
    rw [emptyLines, List.replicate_succ', String.ofList_append]
    rfl
  rw [hsucc, String.append_assoc]

/-- The groups of the empty lines are empty. -/
theorem splitOn_emptyLines (n : Nat) (mappings : String) :
    (emptyLines n ++ mappings).toList.splitOn ';' =
      List.replicate n [] ++ mappings.toList.splitOn ';' := by
  rw [String.toList_append, emptyLines, String.toList_ofList]
  induction n with
  | zero => rfl
  | succ n ih =>
    rw [List.replicate_succ, List.cons_append, List.splitOn, List.splitOnP_cons_eq_if_modifyHead,
      if_pos (by decide), List.replicate_succ, List.cons_append]
    exact congrArg _ ih

section
variable {map : Bytes} {o : Json.Object} {mappings : String}
  (hread : readValue map = .ok (.ofObject o)) (hint : (Json.Value.ofObject o).Integral)
  (hmappings : o.find? mappingsKey = some (.str mappings))
include hread hint hmappings

/-- A shift adds a semicolon to what the map holds. -/
theorem shift_mappings :
    ∃ shifted, shift map = .ok shifted ∧
      readValue shifted = .ok (.ofObject (o.insert mappingsKey (.str (";" ++ mappings)))) := by
  have hnested : (Json.Value.ofObject (o.insert mappingsKey (.str (";" ++ mappings)))).Nested
      Json.maxDepth := (Json.readValue_nested hread).insert .str mappingsKey
  refine ⟨writeObject (o.insert mappingsKey (.str (";" ++ mappings))), ?_, ?_⟩
  · rw [shift, Json.readObject_eq_ok_iff.2 hread]
    simp only [hmappings]
  · exact Json.readValue_write hnested (hint.insert .str mappingsKey)

end

/-- Any number of shifts add as many. -/
theorem shiftTimes_mappings (n : Nat) {map : Bytes} {o : Json.Object} {mappings : String}
    (hread : readValue map = .ok (.ofObject o)) (hint : (Json.Value.ofObject o).Integral)
    (hmappings : o.find? mappingsKey = some (.str mappings)) :
    ∃ shifted, shiftTimes map n = .ok shifted ∧
      readValue shifted =
        .ok (.ofObject (o.insert mappingsKey (.str (emptyLines n ++ mappings)))) := by
  induction n generalizing map o mappings with
  | zero =>
    refine ⟨map, rfl, ?_⟩
    have hnone : emptyLines 0 ++ mappings = mappings := String.empty_append
    rw [hnone, Table.insert_of_find? hmappings, hread]
  | succ n ih =>
    obtain ⟨first, hshift, hfirst⟩ := shift_mappings hread hint hmappings
    have hthere : (o.insert mappingsKey (.str (";" ++ mappings))).find? mappingsKey =
        some (.str (";" ++ mappings)) := by rw [Table.find?_insert, if_pos rfl]
    obtain ⟨shifted, hshifts, hlast⟩ := ih hfirst (hint.insert .str mappingsKey) hthere
    refine ⟨shifted, ?_, ?_⟩
    · rw [shiftTimes, hshift]
      simp only [hshifts]
      rfl
    · rw [hlast, Table.insert_insert, emptyLines_append]

/-! ## Other bytes -/

/-- What fails, fails before anything is shifted. -/
theorem shiftTimes_of_error {map : Bytes} {e : MapError} (h : shift map = .error e) (n : Nat) :
    shiftTimes map (n + 1) = .error (e, 0) := by
  rw [shiftTimes, h]

/-- A map without mappings stays as it is. -/
theorem shiftTimes_of_unchanged {map : Bytes} (h : shift map = .ok map) (n : Nat) :
    shiftTimes map n = .ok map := by
  induction n with
  | zero => rfl
  | succ n ih =>
    rw [shiftTimes, h]
    simp only [ih]
    rfl

theorem shift_of_not_object {map : Bytes} (h : ∀ o, readValue map ≠ .ok (.ofObject o)) :
    ∃ reason, shift map = .error (.decode reason) := by
  rw [shift]
  cases hread : readObject map with
  | error fault => exact ⟨fault.describe, rfl⟩
  | ok o => exact absurd (Json.readObject_eq_ok_iff.1 hread) (h o)

section
variable {map : Bytes} {o : Json.Object} (hread : readValue map = .ok (.ofObject o))
include hread

theorem shift_of_no_mappings (h : o.find? mappingsKey = none) : shift map = .ok map := by
  rw [shift, Json.readObject_eq_ok_iff.2 hread]
  simp only [h]

theorem shift_of_invalid {v : Json.Value} (h : o.find? mappingsKey = some v)
    (hv : ∀ mappings, v ≠ .str mappings) : shift map = .error .invalidMappings := by
  rw [shift, Json.readObject_eq_ok_iff.2 hread]
  cases v with
  | str mappings => exact absurd rfl (hv mappings)
  | null | bool | num | arr | obj => simp only [h]

end

/-! ## All outcomes -/

/-- A map fails at once or can be shifted for ever. -/
theorem shift_error_or_shiftTimes_ok {map : Bytes}
    (hint : ∀ v, readValue map = .ok v → v.Integral) :
    (∃ e, shift map = .error e) ∨ ∀ n, ∃ shifted, shiftTimes map n = .ok shifted := by
  by_cases hobject : ∃ o, readValue map = .ok (.ofObject o)
  · obtain ⟨o, hread⟩ := hobject
    rcases hv : o.find? mappingsKey with _ | v
    · have hshift := shift_of_no_mappings hread hv
      exact .inr fun n => ⟨map, shiftTimes_of_unchanged hshift n⟩
    by_cases hstring : ∃ mappings, v = .str mappings
    · obtain ⟨mappings, rfl⟩ := hstring
      refine .inr fun n => ?_
      obtain ⟨shifted, hshifts, -⟩ := shiftTimes_mappings n hread (hint _ hread) hv
      exact ⟨shifted, hshifts⟩
    · exact .inl ⟨_, shift_of_invalid hread hv fun mappings h => hstring ⟨mappings, h⟩⟩
  · obtain ⟨reason, hshift⟩ := shift_of_not_object fun o h => hobject ⟨o, h⟩
    exact .inl ⟨_, hshift⟩

/-- `moved` is the object of a map with these mappings, `n` lines further down:
    `n` semicolons are in front of the mappings, hence `n` empty groups in front of
    the groups, and every other entry is as it was. -/
structure MovedDown (n : Nat) (mappings : String) (o moved : Json.Object) : Prop where
  entry : moved.find? mappingsKey = some (.str (emptyLines n ++ mappings))
  groups : (emptyLines n ++ mappings).toList.splitOn ';' =
    List.replicate n [] ++ mappings.toList.splitOn ';'
  others : ∀ key, key ≠ mappingsKey → moved.find? key = o.find? key

theorem movedDown_insert (n : Nat) (mappings : String) (o : Json.Object) :
    MovedDown n mappings o (o.insert mappingsKey (.str (emptyLines n ++ mappings))) where
  entry := by rw [Table.find?_insert, if_pos rfl]
  groups := splitOn_emptyLines n mappings
  others key hkey := by rw [Table.find?_insert, if_neg hkey]

/-- **Repeated shifts.**  All of them succeed if the bytes are an object with
    mappings, and move it down line by line; without mappings they leave the bytes
    as they are; in every other case the first one fails.  None fails behind one
    that succeeded. -/
theorem shiftTimes_outcome (map : Bytes) (hint : ∀ v, readValue map = .ok v → v.Integral) (n : Nat)
    (hn : 1 ≤ n) :
    (∀ o mappings, readValue map = .ok (.ofObject o) →
      o.find? mappingsKey = some (.str mappings) →
        ∃ shifted moved, shiftTimes map n = .ok shifted ∧
          readValue shifted = .ok (.ofObject moved) ∧ MovedDown n mappings o moved) ∧
    (∀ o, readValue map = .ok (.ofObject o) → o.find? mappingsKey = none →
      shiftTimes map n = .ok map) ∧
    (∀ o v, readValue map = .ok (.ofObject o) → o.find? mappingsKey = some v →
      (∀ mappings, v ≠ .str mappings) → shiftTimes map n = .error (.invalidMappings, 0)) ∧
    ((∀ o, readValue map ≠ .ok (.ofObject o)) →
      ∃ reason, shiftTimes map n = .error (.decode reason, 0)) ∧
    ∀ k e done, shiftTimes map k = .error (e, done) → done = 0 := by
  obtain ⟨n, rfl⟩ := Nat.exists_eq_add_one.2 hn
  refine ⟨fun o mappings hread hmappings => ?_, fun o hread hnone => ?_,
    fun o v hread hv hnot => ?_, fun hnot => ?_, fun k e done hk => ?_⟩
  · obtain ⟨shifted, hshifts, hlast⟩ := shiftTimes_mappings (n + 1) hread (hint _ hread) hmappings
    exact ⟨shifted, _, hshifts, hlast, movedDown_insert (n + 1) mappings o⟩
  · exact shiftTimes_of_unchanged (shift_of_no_mappings hread hnone) (n + 1)
  · exact shiftTimes_of_error (shift_of_invalid hread hv hnot) n
  · obtain ⟨reason, hshift⟩ := shift_of_not_object hnot
    exact ⟨reason, shiftTimes_of_error hshift n⟩
  · rcases shift_error_or_shiftTimes_ok hint with ⟨e', hshift⟩ | hshifts
    · cases k with
      | zero => cases hk
      | succ k =>
        rw [shiftTimes_of_error hshift] at hk
        cases hk
        rfl
    · obtain ⟨shifted, hshifted⟩ := hshifts k
      rw [hshifted] at hk
      cases hk

/-- A map whose mappings are given twice, with the least and the greatest integer
    and a negative zero. -/
def repeatedMap : Bytes :=
  Bytes.ofString ("\x7b\"mappings\":[],\"n\":[-9223372036854775808,18446744073709551615,-0],\n" ++
    " \"mappings\" : \"A;\\u0041\"\x7d")

/-- Moved down by two lines it has two semicolons more, and the same numbers. -/
theorem shiftTimes_outcome_repeated :
    ∃ shifted moved, shiftTimes repeatedMap 2 = .ok shifted ∧
      readValue shifted = .ok (.ofObject moved) ∧
      moved.find? mappingsKey = some (.str ";;A;A") ∧
      moved.find? "n" = some (.arr [.num (.int (-9223372036854775808)),
        .num (.int 18446744073709551615), .num (.float (-Float.ofNat 0))]) := by
  let numbers : Json.Value := .arr [.num (.int (-9223372036854775808)),
    .num (.int 18446744073709551615), .num (.float (-Float.ofNat 0))]
  have hascending : Entries.Ascending [("mappings", .str "A;A"), ("n", numbers)] := by
    rw [Entries.Ascending]
    decide
  let o : Json.Object := ⟨[("mappings", .str "A;A"), ("n", numbers)], hascending⟩
  have hread : readValue repeatedMap = .ok (.ofObject o) := rfl
  have hint : ∀ v, readValue repeatedMap = .ok v → v.Integral := by
    intro v hv
    rw [hread] at hv
    cases hv
    simp [Json.Value.ofObject, o, numbers]
  obtain ⟨shifted, moved, hshifts, hlast, hmoved⟩ :=
    (shiftTimes_outcome repeatedMap hint 2 (by decide)).1 o "A;A" hread rfl
  exact ⟨shifted, moved, hshifts, hlast, hmoved.entry, hmoved.others "n" (by decide)⟩

end Downlevel.SourceMap
