/-
  Downlevel — tables filled by one set after another.

  However often and in whatever order the keys of a table are set, the table
  holds at every key what was set there last.  As a table has one form only, that
  is all that a sequence of sets leaves behind.

  * `lastSet? key sets`: the value that `key` is set to last;
  * `Table.find?_setAll`: what the sets leave at a key;
  * `Table.setAll_eq_iff`: sequences leave the same table exactly if they leave
    the same at every key;
  * `Table.size_setAll`: they leave one entry for each key that occurs;
  * `Table.keys_ascending`: the keys ascend by their bytes.
-/
import Downlevel.Table
import Downlevel.Proofs.Text.ByteOrder
import Mathlib.Data.Finset.Card

namespace Downlevel

variable {α : Type}

/-! ## Keys -/

theorem Entries.isSome_find?_iff {key : String} {es : Entries α} :
    (es.find? key).isSome ↔ key ∈ es.map Prod.fst := by
  induction es with
  | nil => simp [find?]
  | cons e es ih =>
    rw [find?, List.map_cons, List.mem_cons]
    split
    · rename_i h
      simp [h]
    · rename_i h
      rw [ih, or_iff_right fun hkey => h hkey.symm]

namespace Table

/-- The keys, in the order of the entries. -/
def keys (t : Table α) : List String := t.entries.map Prod.fst

theorem mem_keys_iff {t : Table α} {key : String} : key ∈ t.keys ↔ (t.find? key).isSome :=
  Entries.isSome_find?_iff.symm

/-- The bytes of the keys ascend, so no key is there twice. -/
theorem keys_ascending (t : Table α) : (t.keys.map Bytes.ofString).Pairwise (· < ·) := by
  rw [List.pairwise_map, keys, List.pairwise_map]
  exact t.ascending.imp Bytes.ofString_lt_iff.2

theorem nodup_keys (t : Table α) : t.keys.Nodup := by
  rw [List.Nodup, keys, List.pairwise_map]
  exact t.ascending.imp ne_of_lt

theorem size_eq_card (t : Table α) : t.size = t.keys.toFinset.card := by
  rw [List.toFinset_card_of_nodup t.nodup_keys, keys, List.length_map, size]

end Table

/-! ## Sequences of sets -/

/-- The value of the last one of `sets` that sets `key`. -/
def lastSet? (key : String) (sets : List (String × α)) : Option α :=
  (sets.filter fun s => s.1 = key).getLast?.map Prod.snd

section
variable {key : String} {sets : List (String × α)}

@[simp] theorem lastSet?_nil : lastSet? key ([] : List (String × α)) = none := rfl

theorem lastSet?_cons (s : String × α) :
    lastSet? key (s :: sets) = (lastSet? key sets).or (if s.1 = key then some s.2 else none) := by
  unfold lastSet?
  by_cases h : s.1 = key
  · simp only [List.filter_cons, h, decide_true, if_true, List.getLast?_cons]
    cases (sets.filter fun s => s.1 = key).getLast? <;> rfl
  · simp [h]

/-- A key has a last value exactly if it is set at all. -/
theorem isSome_lastSet?_iff : (lastSet? key sets).isSome ↔ key ∈ sets.map Prod.fst := by
  induction sets with
  | nil => simp
  | cons s sets ih =>
    rw [lastSet?_cons, Option.isSome_or, Bool.or_eq_true, ih, List.map_cons, List.mem_cons, or_comm]
    refine or_congr_left ?_
    split
    · rename_i h
      simp [h]
    · rename_i h
      simp [Ne.symm h]

end

namespace Table

/-- The table after each of these keys was set to its value, one after the
    other. -/
def setAll (t : Table α) (sets : List (String × α)) : Table α :=
  sets.foldl (fun t s => t.insert s.1 s.2) t

section
variable {t u : Table α} {sets sets' : List (String × α)}

@[simp] theorem setAll_nil : t.setAll [] = t := rfl

@[simp] theorem setAll_cons (s : String × α) :
    t.setAll (s :: sets) = (t.insert s.1 s.2).setAll sets := rfl

/-- The last set of a key decides, and what was there before if it is not set. -/
theorem find?_setAll (key : String) :
    (t.setAll sets).find? key = (lastSet? key sets).or (t.find? key) := by
  induction sets generalizing t with
  | nil => simp
  | cons s sets ih =>
    rw [setAll_cons, ih, find?_insert, lastSet?_cons, Option.or_assoc]
    by_cases h : s.1 = key
    · simp [h]
    · simp [h, Ne.symm h]

theorem setAll_eq_iff : t.setAll sets = u.setAll sets' ↔
    ∀ key, (lastSet? key sets).or (t.find? key) = (lastSet? key sets').or (u.find? key) := by
  simp only [← find?_setAll]
  exact ⟨fun h key => h ▸ rfl, ext_find?⟩

/-- A key is there exactly if it was there or was set. -/
theorem mem_keys_setAll {key : String} :
    key ∈ (t.setAll sets).keys ↔ key ∈ t.keys ∨ key ∈ sets.map Prod.fst := by
  rw [mem_keys_iff, find?_setAll, Option.isSome_or, Bool.or_eq_true, isSome_lastSet?_iff,
    mem_keys_iff, or_comm]

theorem size_setAll :
    (t.setAll sets).size = (t.keys ++ sets.map Prod.fst).toFinset.card := by
  have hkeys : (t.setAll sets).keys.toFinset = (t.keys ++ sets.map Prod.fst).toFinset := by
    ext key
    rw [List.mem_toFinset, List.mem_toFinset, mem_keys_setAll, List.mem_append]
  rw [size_eq_card, hkeys]

end

/-- A table is filled again from its own entries. -/
theorem ofPairs_entries (t : Table α) : ofPairs t.entries = t :=
  ext_entries t.ascending.ofPairs_eq

end Table

end Downlevel
