/-
  Downlevel — the texts that name a mode.

  A text is read without the blanks at its two ends and without a look at the
  case of its ASCII letters.  Both are harmless to each other: a letter is no
  blank in either case, so a text is trimmed at the same places in any case.

  * `Text.SameLetter c d`: the characters are one, or the two cases of one of
    the twenty-six letters; nothing else is folded;
  * `Text.Dresses text worn`: `worn` is `text` in any case, with blanks around;
  * `Mode.Spells m w`: `w` is the name of `m` in any case;
  * `Mode.ofText_names`: a text names a mode exactly if it is its name dressed
    up, and in any other text the reading is refused with that text.
-/
import Downlevel.Mode
import Mathlib.Data.List.DropRight
import Mathlib.Data.List.Forall2

namespace Downlevel

namespace Text

/-! ## Blanks at the ends -/

section
variable {u v w : List Char}

/-- Nothing but blank characters. -/
def Blank (text : List Char) : Prop := ∀ c ∈ text, isBlank c = true

theorem trim_eq (text : List Char) : trim text = (text.dropWhile isBlank).rdropWhile isBlank := rfl

/-- What is trimmed off is blank. -/
theorem exists_trim (text : List Char) :
    ∃ u v, text = u ++ trim text ++ v ∧ Blank u ∧ Blank v := by
  refine ⟨text.takeWhile isBlank, (text.dropWhile isBlank).rtakeWhile isBlank, ?_,
    fun c hc => List.mem_takeWhile_imp hc, fun c hc => List.mem_rtakeWhile_imp hc⟩
  rw [trim_eq, List.append_assoc, List.rdropWhile_append_rtakeWhile,
    List.takeWhile_append_dropWhile]

/-- Blanks at the end make no difference to what is trimmed there. -/
theorem rdropWhile_append_of_blank (hv : Blank v) :
    (w ++ v).rdropWhile isBlank = w.rdropWhile isBlank := by
  induction v using List.reverseRecOn with
  | nil => rw [List.append_nil]
  | append_singleton v c ih =>
    have hc : isBlank c = true := hv c (by simp)
    rw [← List.append_assoc, List.rdropWhile_concat_pos _ _ _ hc]
    exact ih fun d hd => hv d (by simp [hd])

/-- Blanks around a text make no difference to the trimmed text. -/
theorem trim_append (hu : Blank u) (hv : Blank v) : trim (u ++ w ++ v) = trim w := by
  rw [trim_eq, trim_eq, List.append_assoc, List.dropWhile_append_of_pos hu, List.dropWhile_append]
  split
  · rename_i hw
    -- the text is blank as a whole, and nothing of it is left
    have hnil : v.dropWhile isBlank = [] := List.dropWhile_eq_nil_iff.2 hv
    rw [hnil, List.isEmpty_iff.1 hw]
  · exact rdropWhile_append_of_blank hv

/-- A text without blanks is not trimmed. -/
theorem trim_of_not_blank (hw : ∀ c ∈ w, isBlank c = false) : trim w = w := by
  have hdrop : w.dropWhile isBlank = w :=
    List.dropWhile_eq_self_iff.2 fun hl => by simp [hw _ (List.getElem_mem hl)]
  rw [trim_eq, hdrop]
  exact List.rdropWhile_eq_self_iff.2 fun hl => by simp [hw _ (List.getLast_mem hl)]

end

/-! ## The case of letters -/

/-- The capital letters of ASCII, each with its small letter. -/
def letters : List (Char × Char) :=
  "ABCDEFGHIJKLMNOPQRSTUVWXYZ".toList.zip "abcdefghijklmnopqrstuvwxyz".toList

/-- Two characters are one, or a letter of ASCII in its two cases. -/
def SameLetter (c d : Char) : Prop := c = d ∨ (c, d) ∈ letters ∨ (d, c) ∈ letters

/-- A capital letter becomes its small letter, and every other character
    stays. -/
theorem mem_letters_or_toLower_eq (c : Char) : (c, c.toLower) ∈ letters ∨ c.toLower = c := by
  have hall : ∀ n < 26, (Char.ofNat (65 + n), (Char.ofNat (65 + n)).toLower) ∈ letters := by decide
  by_cases hc : 65 ≤ c.toNat ∧ c.toNat ≤ 90
  · left
    have hletter := hall (c.toNat - 65) (by omega)
    rwa [Nat.add_sub_cancel' hc.1, Char.ofNat_toNat] at hletter
  · exact .inr (dif_neg hc)

theorem toLower_of_mem_letters {c d : Char} (h : (c, d) ∈ letters) :
    c.toLower = d ∧ d.toLower = d := by
  have hall : ∀ p ∈ letters, p.1.toLower = p.2 ∧ p.2.toLower = p.2 := by decide
  exact hall _ h

theorem not_blank_of_mem_letters {c d : Char} (h : (c, d) ∈ letters) :
    isBlank c = false ∧ isBlank d = false := by
  have hall : ∀ p ∈ letters, isBlank p.1 = false ∧ isBlank p.2 = false := by decide
  exact hall _ h

/-- Lower-casing forgets which case a letter had, and nothing else. -/
theorem sameLetter_iff {c d : Char} : SameLetter c d ↔ c.toLower = d.toLower := by
  constructor
  · rintro (rfl | h | h)
    · rfl
    · obtain ⟨hc, hd⟩ := toLower_of_mem_letters h
      rw [hc, hd]
    · obtain ⟨hd, hc⟩ := toLower_of_mem_letters h
      rw [hc, hd]
  · intro h
    have hinj : ∀ p ∈ letters, ∀ q ∈ letters, p.2 = q.2 → p.1 = q.1 := by decide
    rcases mem_letters_or_toLower_eq c with hc | hc <;>
      rcases mem_letters_or_toLower_eq d with hd | hd
    · exact .inl (hinj _ hc _ hd h)
    · exact .inr (.inl (by rwa [h, hd] at hc))
    · exact .inr (.inr (by rwa [← h, hc] at hd))
    · exact .inl (by rw [← hc, h, hd])

theorem sameLetters_iff {w text : List Char} :
    List.Forall₂ SameLetter w text ↔ w.map Char.toLower = text.map Char.toLower := by
  have hsame : SameLetter = fun c d => c.toLower = d.toLower := by
    funext c d
    exact propext sameLetter_iff
  rw [hsame, ← List.forall₂_eq_eq_eq, List.forall₂_map_left_iff, List.forall₂_map_right_iff]

/-- A blank has no case, and a letter is no blank. -/
theorem isBlank_toLower (c : Char) : isBlank c.toLower = isBlank c := by
  rcases mem_letters_or_toLower_eq c with hc | hc
  · obtain ⟨hcapital, hsmall⟩ := not_blank_of_mem_letters hc
    rw [hcapital, hsmall]
  · rw [hc]

theorem trim_map_toLower (text : List Char) :
    trim (text.map Char.toLower) = (trim text).map Char.toLower := by
  have hblank : isBlank ∘ Char.toLower = isBlank := funext isBlank_toLower
  rw [trim, trim, List.dropWhile_map, hblank, ← List.map_reverse, List.dropWhile_map, hblank,
    List.map_reverse]

/-! ## Dressed texts -/

/-- `worn` is `text` with blanks around it and its letters in any case. -/
def Dresses (text worn : List Char) : Prop :=
  ∃ u w v, worn = u ++ w ++ v ∧ Blank u ∧ Blank v ∧ List.Forall₂ SameLetter w text

/-- What of a text is compared with a name. -/
def bare (text : List Char) : List Char := (trim text).map Char.toLower

/-- Nobody can tell how a text is dressed. -/
theorem Dresses.bare_eq {text worn : List Char} (h : Dresses text worn) : bare worn = bare text := by
  obtain ⟨u, w, v, rfl, hu, hv, hw⟩ := h
  rw [bare, bare, trim_append hu hv, ← trim_map_toLower, sameLetters_iff.1 hw, trim_map_toLower]

end Text

namespace Mode

open Text

/-! ## Names -/

/-- `w` is the name of `m` in any case: as long as the name, and the name once
    its letters are small. -/
structure Spells (m : Mode) (w : List Char) : Prop where
  length : w.length = m.name.length
  letters : w.map Char.toLower = m.name.toList

/-- The text is the name of `m` in any case, between blanks. -/
def Names (m : Mode) (text : String) : Prop :=
  ∃ u w v, text.toList = u ++ w ++ v ∧ Blank u ∧ Blank v ∧ m.Spells w

section
variable {m : Mode} {w : List Char} {text : String}

/-- Names have small letters only. -/
theorem name_toLower (m : Mode) : m.name.toList.map Char.toLower = m.name.toList := by
  cases m <;> decide

theorem spells_iff_map : m.Spells w ↔ w.map Char.toLower = m.name.toList := by
  refine ⟨Spells.letters, fun h => ⟨?_, h⟩⟩
  rw [← List.length_map (f := Char.toLower), h, String.length_toList]

/-- A name is spelled letter by letter, each in one of its two cases. -/
theorem spells_iff : m.Spells w ↔ List.Forall₂ SameLetter w m.name.toList := by
  rw [spells_iff_map, sameLetters_iff, name_toLower]

/-- A name is not empty. -/
theorem Spells.ne_nil (h : m.Spells w) : w ≠ [] := by
  rintro rfl
  have hlength := h.length
  cases m <;> cases hlength

/-- Only letters spell a name. -/
theorem Spells.exists_letter (h : m.Spells w) : ∀ c ∈ w, ∃ p ∈ Text.letters, c = p.1 ∨ c = p.2 := by
  intro c hc
  have hname : m.name.toList ⊆ Text.letters.map Prod.snd := by cases m <;> decide
  have hsmall : c.toLower ∈ m.name.toList := h.letters ▸ List.mem_map_of_mem hc
  rcases mem_letters_or_toLower_eq c with hletter | hsame
  · exact ⟨_, hletter, .inl rfl⟩
  · obtain ⟨p, hp, hd⟩ := List.mem_map.1 (hname hsmall)
    exact ⟨p, hp, .inr (by rw [hd, hsame])⟩

/-- So there is no blank in a name. -/
theorem Spells.not_blank (h : m.Spells w) : ∀ c ∈ w, isBlank c = false := by
  intro c hc
  obtain ⟨p, hp, rfl | rfl⟩ := h.exists_letter c hc
  · exact (not_blank_of_mem_letters hp).1
  · exact (not_blank_of_mem_letters hp).2

/-- A text names a mode exactly if its name is left of it. -/
theorem names_iff : m.Names text ↔ bare text.toList = m.name.toList := by
  constructor
  · rintro ⟨u, w, v, htext, hu, hv, hw⟩
    rw [htext, bare, trim_append hu hv, trim_of_not_blank hw.not_blank, hw.letters]
  · intro h
    obtain ⟨u, v, htext, hu, hv⟩ := exists_trim text.toList
    exact ⟨u, trim text.toList, v, htext, hu, hv, spells_iff_map.2 h⟩

/-- No text names two modes. -/
theorem Names.unique {n : Mode} (hm : m.Names text) (hn : n.Names text) : m = n := by
  have hname : m.name.toList = n.name.toList := by rw [← names_iff.1 hm, names_iff.1 hn]
  revert hname
  cases m <;> cases n <;> decide

/-! ## Reading a name -/

theorem named?_eq_some_iff {name : String} : named? name = some m ↔ name = m.name := by
  constructor
  · intro h
    have hname := List.find?_some (p := fun m : Mode => m.name = name) h
    exact (of_decide_eq_true hname).symm
  · rintro rfl
    cases m <;> rfl

theorem ofText_eq_ok_iff : ofText text = .ok m ↔ m.Names text := by
  have hnamed : named? (String.ofList (bare text.toList)) = some m ↔ m.Names text := by
    rw [named?_eq_some_iff, names_iff, ← String.toList_inj, String.toList_ofList]
  rw [← hnamed, ofText, bare]
  split
  · rename_i n hn
    rw [hn, Except.ok.injEq, Option.some.injEq]
  · rename_i hn
    simp [hn]

/-- The refusal is of the text as it came. -/
theorem ofText_eq_error_iff {unknown : UnknownMode} :
    ofText text = .error unknown ↔ unknown = ⟨text⟩ ∧ ∀ m : Mode, ¬ m.Names text := by
  simp only [← ofText_eq_ok_iff]
  rw [ofText]
  split
  · simp
  · simp [eq_comm]

/-- It does not matter how a text is dressed. -/
theorem names_of_dresses {worn : String} (h : Dresses text.toList worn.toList) :
    m.Names worn ↔ m.Names text := by
  rw [names_iff, names_iff, h.bare_eq]

end

/-- **The texts that name a mode.**  A text names a mode exactly if it is the
    mode's name, in any case of its ASCII letters, between blanks; it names one
    mode at most, and it is refused, unchanged, if it names none.  Blanks around a
    text and the case of its letters make no difference, so every mode is read
    from its name however that is dressed. -/
theorem ofText_names (text : String) :
    (∀ m, ofText text = .ok m ↔ m.Names text) ∧
    (∀ (m : Mode) w, m.Spells w ↔ List.Forall₂ SameLetter w m.name.toList) ∧
    (∀ (m : Mode) w, m.Spells w → w ≠ [] ∧ ∀ c ∈ w, isBlank c = false) ∧
    (∀ m n : Mode, m.Names text → n.Names text → m = n) ∧
    (∀ unknown, ofText text = .error unknown ↔ unknown = ⟨text⟩ ∧ ∀ m : Mode, ¬ m.Names text) ∧
    (∀ worn : String, Dresses text.toList worn.toList →
      ∀ m, ofText worn = .ok m ↔ ofText text = .ok m) ∧
    (∀ (m : Mode) (worn : String), Dresses m.name.toList worn.toList → ofText worn = .ok m) := by
  refine ⟨fun m => ofText_eq_ok_iff, fun m w => spells_iff, fun m w hw => ⟨hw.ne_nil, hw.not_blank⟩,
    fun m n => Names.unique, fun unknown => ofText_eq_error_iff, fun worn hworn m => ?_,
    fun m worn hworn => ?_⟩
  · rw [ofText_eq_ok_iff, ofText_eq_ok_iff, names_of_dresses hworn]
  · have hself : m.Names m.name :=
      ⟨[], m.name.toList, [], by simp, by simp [Blank], by simp [Blank], rfl, name_toLower m⟩
    exact ofText_eq_ok_iff.2 ((names_of_dresses hworn).2 hself)

/-- A name in mixed case between blanks from outside ASCII is still a name; with
    a long s in place of its small letter it is none. -/
theorem ofText_names_dressed :
    Dresses "Extended".toList "\u3000 eXTeNDeD\u0085".toList ∧
      ofText "\u3000 eXTeNDeD\u0085" = .ok .extended ∧
      ofText "ba\u017fe" = .error ⟨"ba\u017fe"⟩ ∧ ∀ m : Mode, ¬ m.Names "ba\u017fe" := by
  have hworn : Dresses "Extended".toList "\u3000 eXTeNDeD\u0085".toList := by
    refine ⟨['\u3000', ' '], "eXTeNDeD".toList, ['\u0085'], rfl, ?_, ?_, ?_⟩
    · exact List.all_eq_true.1 (by decide)
    · exact List.all_eq_true.1 (by decide)
    · exact sameLetters_iff.2 (by decide)
  obtain ⟨-, -, -, -, -, hdressed, -⟩ := ofText_names "Extended"
  obtain ⟨-, -, -, -, hrefused, -, -⟩ := ofText_names "ba\u017fe"
  exact ⟨hworn, (hdressed _ hworn .extended).2 rfl, rfl, ((hrefused _).1 rfl).2⟩

end Mode

end Downlevel
