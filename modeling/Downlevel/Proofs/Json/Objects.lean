/-
  Downlevel — objects that are set key by key, and their texts.

  The options of a request are an object that is filled by sets.  The text of an
  object lists its entries in their order, between commas (`writeObject_eq`), and
  the order of the entries is that of the keys' bytes.  So neither the object nor
  its text tells in which order the keys were set.

  * `setAll_canonical`: what any sequence of sets makes of an object.
-/
import Downlevel.Json.Write
import Downlevel.Proofs.Table

namespace Downlevel.Json

/-! ## The text of an object -/

/-- The text of an entry. -/
def writeEntry (e : String × Value) : Bytes := writeString e.1 ++ colonByte :: write e.2

theorem writeMoreEntries_eq (e : String × Value) (es : Entries Value) :
    writeEntry e ++ writeMoreEntries es =
      [commaByte].intercalate ((e :: es).map writeEntry) ++ [closeObject] := by
  induction es generalizing e with
  | nil => simp [writeMoreEntries, List.intercalate]
  | cons e' es ih =>
    have hmore : writeMoreEntries (e' :: es) =
        commaByte :: (writeEntry e' ++ writeMoreEntries es) := by
      simp [writeMoreEntries, writeEntry]
    rw [hmore, ih, List.map_cons, List.map_cons]
    simp [List.intercalate]

/-- An object is written entry by entry, with commas between them. -/
theorem writeObject_eq (o : Object) :
    writeObject o =
      openObject :: ([commaByte].intercalate (o.entries.map writeEntry) ++ [closeObject]) := by
  rw [writeObject, Value.ofObject, write]
  cases o.entries with
  | nil => rfl
  | cons e es =>
    rw [← writeMoreEntries_eq, writeEntries, writeEntry, List.append_assoc, List.cons_append]

/-! ## Objects that are set -/

/-- **A canonical finite map.**  After any sequence of sets an object has, at
    every key, the value of the last set of this key, and its old value where there is
    none.  It has as many entries as keys were there or were set.  Two sequences
    that leave the same at every key leave the same object with the same text.  The
    text lists the entries by ascending bytes of their keys, each key once, and a
    copy of the entries makes the object again. -/
theorem setAll_canonical (start : Object) (sets : List (String × Value)) :
    (∀ key, (start.setAll sets).find? key = (lastSet? key sets).or (start.find? key)) ∧
    (start.setAll sets).size = (start.keys ++ sets.map Prod.fst).toFinset.card ∧
    (∀ (start' : Object) (sets' : List (String × Value)),
      (∀ key, (lastSet? key sets).or (start.find? key) =
        (lastSet? key sets').or (start'.find? key)) →
      start.setAll sets = start'.setAll sets' ∧
        writeObject (start.setAll sets) = writeObject (start'.setAll sets')) ∧
    writeObject (start.setAll sets) = openObject ::
      ([commaByte].intercalate ((start.setAll sets).entries.map writeEntry) ++ [closeObject]) ∧
    ((start.setAll sets).keys.map Bytes.ofString).Pairwise (· < ·) ∧
    Table.ofPairs (start.setAll sets).entries = start.setAll sets := by
  refine ⟨Table.find?_setAll, Table.size_setAll, fun start' sets' hsame => ?_, writeObject_eq _,
    Table.keys_ascending _, Table.ofPairs_entries _⟩
  have hobject : start.setAll sets = start'.setAll sets' := Table.setAll_eq_iff.2 hsame
  exact ⟨hobject, congrArg writeObject hobject⟩

/-- Sets of keys that begin each other or lie outside ASCII, with a key set
    twice. -/
def manySets : List (String × Value) :=
  [("é", .bool true), ("a", .null), ("ab", .null), ("a", .num (.int (-3)))]

/-- The same in another order, each key once. -/
def fewSets : List (String × Value) := [("a", .num (.int (-3))), ("é", .bool true), ("ab", .null)]

/-- The two leave the same object and the same text, also if one of them starts
    with a key that it sets later on. -/
theorem setAll_canonical_reordered :
    (Table.empty.insert "ab" (.str "old")).setAll manySets = Table.empty.setAll fewSets ∧
      writeObject (Table.empty.setAll fewSets) =
        Bytes.ofString "\x7b\"a\":-3,\"ab\":null,\"é\":true\x7d" := by
  have hsame (key : String) :
      (lastSet? key manySets).or ((Table.empty.insert "ab" (.str "old")).find? key) =
        (lastSet? key fewSets).or (Table.empty.find? key) := by
    simp only [manySets, fewSets, lastSet?_cons, lastSet?_nil, Table.find?_insert,
      Table.find?_empty]
    by_cases ha : "a" = key
    · subst ha; rfl
    by_cases hab : "ab" = key
    · subst hab; rfl
    by_cases he : "é" = key
    · subst he; rfl
    simp [ha, hab, he, Ne.symm hab]
  exact ⟨((setAll_canonical _ manySets).2.2.1 _ fewSets hsame).1, by decide +kernel⟩

end Downlevel.Json
