/-
  Downlevel — tables with text keys.

  A table holds at most one value for a key and lists its entries by ascending
  key, character by character, which is also the order of the keys' bytes.  So
  a table has one form only: tables with the same values at the same keys are
  equal (`Table.ext_find?`), whatever the order in which they were filled.

  * `Entries.insert`, `Entries.find?` and `Entries.erase` work on the plain
    list of entries, `Table` adds the proof that the keys ascend;
  * `Table.find?_insert`, `Table.find?_erase` and `Table.find?_empty` are the
    laws of look-up.
-/

namespace Downlevel

variable {α β : Type}

/-! ## Entries -/

/-- Keys with their values. -/
abbrev Entries (α : Type) : Type := List (String × α)

namespace Entries

/-- Whether the keys ascend, each once. -/
def Ascending (es : Entries α) : Prop := es.Pairwise fun a b => a.1 < b.1

/-- The entries with `value` at `key`, in place of a value already there. -/
def insert (key : String) (value : α) : Entries α → Entries α
  | [] => [(key, value)]
  | e :: es =>
    if key < e.1 then (key, value) :: e :: es
    else if e.1 < key then e :: insert key value es
    else (key, value) :: es

/-- The value at a key. -/
def find? (key : String) : Entries α → Option α
  | [] => none
  | e :: es => if e.1 = key then some e.2 else find? key es

/-- The entries without the one at `key`. -/
def erase (key : String) (es : Entries α) : Entries α := es.filter fun e => e.1 ≠ key

/-- The entries of a list of pairs, the last value of a repeated key. -/
def ofPairs (pairs : List (String × α)) : Entries α :=
  pairs.foldl (fun es p => es.insert p.1 p.2) []

theorem mem_of_mem_insert {key : String} {value : α} {es : Entries α} {e : String × α}
    (h : e ∈ es.insert key value) : e = (key, value) ∨ e ∈ es := by
  induction es with
  | nil => exact .inl (List.mem_singleton.1 h)
  | cons a es ih =>
    simp only [insert] at h
    split at h
    · exact List.mem_cons.1 h
    split at h
    · rcases List.mem_cons.1 h with rfl | h
      · exact .inr List.mem_cons_self
      · exact (ih h).imp_right (List.mem_cons_of_mem _)
    · exact (List.mem_cons.1 h).imp_right (List.mem_cons_of_mem _)

theorem fst_of_mem_insert {key : String} {value : α} {es : Entries α} {e : String × α}
    (h : e ∈ es.insert key value) : e.1 = key ∨ e ∈ es :=
  (mem_of_mem_insert h).imp_left fun he => by rw [he]

theorem mem_of_mem_ofPairs {pairs : List (String × α)} {e : String × α} (h : e ∈ ofPairs pairs) :
    e ∈ pairs := by
  suffices ∀ es : Entries α, e ∈ pairs.foldl (fun es p => es.insert p.1 p.2) es →
      e ∈ es ∨ e ∈ pairs from (this [] h).resolve_left List.not_mem_nil
  clear h
  induction pairs with
  | nil => exact fun es h => .inl h
  | cons p pairs ih =>
    intro es h
    rcases ih _ h with h | h
    · rcases mem_of_mem_insert h with rfl | h
      · exact .inr List.mem_cons_self
      · exact .inl h
    · exact .inr (List.mem_cons_of_mem _ h)

private theorem eq_of_not_lt {a b : String} (h₁ : ¬ a < b) (h₂ : ¬ b < a) : a = b :=
  String.le_antisymm (String.not_lt.1 h₂) (String.not_lt.1 h₁)

theorem Ascending.insert {es : Entries α} (h : es.Ascending) (key : String) (value : α) :
    (es.insert key value).Ascending := by
  induction es with
  | nil => simp [Entries.insert, Ascending]
  | cons e es ih =>
    obtain ⟨he, hes⟩ := List.pairwise_cons.1 h
    simp only [Entries.insert]
    split
    · rename_i hlt
      refine List.pairwise_cons.2 ⟨fun a ha => ?_, h⟩
      rcases List.mem_cons.1 ha with rfl | ha
      · exact hlt
      · exact String.lt_trans hlt (he a ha)
    split
    · rename_i hlt
      refine List.pairwise_cons.2 ⟨fun a ha => ?_, ih hes⟩
      rcases fst_of_mem_insert ha with rfl | ha
      · exact hlt
      · exact he a ha
    · rename_i h₁ h₂
      have : e.1 = key := eq_of_not_lt h₂ h₁
      exact List.pairwise_cons.2 ⟨fun a ha => this ▸ he a ha, hes⟩

theorem Ascending.erase {es : Entries α} (h : es.Ascending) (key : String) :
    (es.erase key).Ascending := List.Pairwise.filter _ h

theorem ascending_ofPairs (pairs : List (String × α)) : (ofPairs pairs).Ascending := by
  suffices ∀ es : Entries α, es.Ascending →
      (pairs.foldl (fun es p => es.insert p.1 p.2) es).Ascending from this [] .nil
  induction pairs with
  | nil => exact fun _ h => h
  | cons p pairs ih => exact fun es h => ih _ (h.insert p.1 p.2)

theorem insert_of_forall_lt {key : String} {es : Entries α} (h : ∀ e ∈ es, e.1 < key) (value : α) :
    es.insert key value = es ++ [(key, value)] := by
  induction es with
  | nil => rfl
  | cons e es ih =>
    obtain ⟨he, hes⟩ := List.forall_mem_cons.1 h
    have hnot : ¬ key < e.1 := fun hlt => String.lt_irrefl key (String.lt_trans hlt he)
    rw [insert, if_neg hnot, if_pos he, ih hes, List.cons_append]

/-- Entries in order are a table as they stand. -/
theorem Ascending.ofPairs_eq {es : Entries α} (h : es.Ascending) : ofPairs es = es := by
  suffices ∀ front : Entries α, (front ++ es).Ascending →
      es.foldl (fun es p => es.insert p.1 p.2) front = front ++ es from this [] h
  clear h
  induction es with
  | nil => exact fun front _ => (List.append_nil front).symm
  | cons e es ih =>
    intro front h
    have hfront : ∀ a ∈ front, a.1 < e.1 := fun a ha =>
      (List.pairwise_append.1 h).2.2 a ha e List.mem_cons_self
    rw [List.foldl_cons, insert_of_forall_lt hfront, ih _ (by rwa [List.append_assoc]),
      List.append_assoc]
    rfl

@[simp] theorem find?_insert_self (key : String) (value : α) (es : Entries α) :
    (es.insert key value).find? key = some value := by
  induction es with
  | nil => simp [insert, find?]
  | cons e es ih =>
    simp only [insert]
    split
    · simp [find?]
    split
    · rename_i hlt
      have : e.1 ≠ key := fun h => String.lt_irrefl key (h ▸ hlt)
      simp [find?, this, ih]
    · simp [find?]

theorem find?_insert_of_ne {key other : String} (h : other ≠ key) (value : α) (es : Entries α) :
    (es.insert key value).find? other = es.find? other := by
  induction es with
  | nil => simp [insert, find?, h.symm]
  | cons e es ih =>
    simp only [insert]
    split
    · simp [find?, h.symm]
    split
    · simp [find?, ih]
    · rename_i h₁ h₂
      have : e.1 = key := eq_of_not_lt h₂ h₁
      simp [find?, h.symm, this]

theorem find?_erase_self (key : String) (es : Entries α) : (es.erase key).find? key = none := by
  induction es with
  | nil => rfl
  | cons e es ih =>
    by_cases h : e.1 = key
    · simpa [erase, h] using ih
    · simpa [erase, h, find?] using ih

theorem find?_erase_of_ne {key other : String} (h : other ≠ key) (es : Entries α) :
    (es.erase key).find? other = es.find? other := by
  induction es with
  | nil => rfl
  | cons e es ih =>
    by_cases he : e.1 = key
    · have : e.1 ≠ other := fun h' => h (h' ▸ he)
      simpa [erase, he, find?, this, h.symm] using ih
    · have : erase key (e :: es) = e :: erase key es := by simp [erase, he]
      simp only [this, find?, ih]

theorem find?_eq_none_of_lt {key : String} {es : Entries α} (h : ∀ e ∈ es, key < e.1) :
    es.find? key = none := by
  induction es with
  | nil => rfl
  | cons e es ih =>
    have : e.1 ≠ key := fun he => String.lt_irrefl key (he ▸ h e (by simp))
    simp [find?, this, ih fun a ha => h a (by simp [ha])]

/-- Ascending entries with the same values at the same keys are the same. -/
theorem Ascending.ext {es fs : Entries α} (he : es.Ascending) (hf : fs.Ascending)
    (h : ∀ key, es.find? key = fs.find? key) : es = fs := by
  induction es generalizing fs with
  | nil =>
    cases fs with
    | nil => rfl
    | cons f fs => simpa [find?] using h f.1
  | cons e es ih =>
    cases fs with
    | nil => simpa [find?] using h e.1
    | cons f fs =>
      obtain ⟨he₁, he₂⟩ := List.pairwise_cons.1 he
      obtain ⟨hf₁, hf₂⟩ := List.pairwise_cons.1 hf
      have hkey : e.1 = f.1 := by
        refine eq_of_not_lt (fun hlt => ?_) (fun hlt => ?_)
        · have hnone : find? e.1 (f :: fs) = none := by
            refine find?_eq_none_of_lt fun a ha => ?_
            rcases List.mem_cons.1 ha with rfl | ha
            · exact hlt
            · exact String.lt_trans hlt (hf₁ a ha)
          rw [← h e.1] at hnone
          simp [find?] at hnone
        · have hnone : find? f.1 (e :: es) = none := by
            refine find?_eq_none_of_lt fun a ha => ?_
            rcases List.mem_cons.1 ha with rfl | ha
            · exact hlt
            · exact String.lt_trans hlt (he₁ a ha)
          rw [h f.1] at hnone
          simp [find?] at hnone
      have hval : e.2 = f.2 := by simpa [find?, hkey] using h f.1
      have htail : es = fs := by
        refine ih he₂ hf₂ fun key => ?_
        by_cases hk : e.1 = key
        · rw [find?_eq_none_of_lt (hk ▸ he₁), find?_eq_none_of_lt (hk ▸ hkey ▸ hf₁)]
        · have := h key
          simpa [find?, hk, hkey ▸ hk] using this
      rw [htail, Prod.ext hkey hval]

end Entries

/-! ## Tables -/

/-- A finite map from texts, with its entries in ascending order. -/
structure Table (α : Type) where
  entries : Entries α
  ascending : entries.Ascending

namespace Table

/-- The table without entries. -/
def empty : Table α := ⟨[], .nil⟩

/-- The table with `value` at `key`. -/
def insert (t : Table α) (key : String) (value : α) : Table α :=
  ⟨t.entries.insert key value, t.ascending.insert key value⟩

/-- The value at a key. -/
def find? (t : Table α) (key : String) : Option α := t.entries.find? key

/-- The table without the entry at `key`. -/
def erase (t : Table α) (key : String) : Table α :=
  ⟨t.entries.erase key, t.ascending.erase key⟩

/-- The table of a list of pairs, the last value of a repeated key. -/
def ofPairs (pairs : List (String × α)) : Table α :=
  ⟨Entries.ofPairs pairs, Entries.ascending_ofPairs pairs⟩

/-- The number of entries. -/
def size (t : Table α) : Nat := t.entries.length

theorem ext_entries {t u : Table α} (h : t.entries = u.entries) : t = u := by
  cases t; cases u; simp_all

/-- Tables with the same values at the same keys are equal. -/
theorem ext_find? {t u : Table α} (h : ∀ key, t.find? key = u.find? key) : t = u :=
  ext_entries (t.ascending.ext u.ascending h)

@[simp] theorem find?_empty (key : String) : (empty : Table α).find? key = none := rfl

theorem find?_insert (t : Table α) (key other : String) (value : α) :
    (t.insert key value).find? other = if other = key then some value else t.find? other := by
  split
  · rename_i h; subst h; exact Entries.find?_insert_self _ _ _
  · rename_i h; exact Entries.find?_insert_of_ne h _ _

theorem find?_erase (t : Table α) (key other : String) :
    (t.erase key).find? other = if other = key then none else t.find? other := by
  split
  · rename_i h; subst h; exact Entries.find?_erase_self _ _
  · rename_i h; exact Entries.find?_erase_of_ne h _

theorem insert_insert (t : Table α) (key : String) (a b : α) :
    (t.insert key a).insert key b = t.insert key b := by
  refine ext_find? fun other => ?_
  simp only [find?_insert]
  split <;> rfl

/-- What is there already may be inserted again. -/
theorem insert_of_find? {t : Table α} {key : String} {a : α} (h : t.find? key = some a) :
    t.insert key a = t := by
  refine ext_find? fun other => ?_
  rw [find?_insert]
  split
  · rename_i hother
    rw [hother, h]
  · rfl

end Table

end Downlevel
