/-
  Downlevel — places in a text that becomes part of another one.

  A text that gets a line in front of it or something behind it keeps its
  places, in the first case one line further down.  A word that is free of a
  character is not found sooner or later because that character follows.

  * `find?_append_singleton`: looking for a word in a line and its end;
  * `offset_below`: the place below a line that was put in front;
  * `offset_append`: a place inside the text.
-/
import Downlevel.Text.Lines
import Downlevel.Text.Position

namespace Downlevel.Text

/-! ## Words -/

section
variable {word : List Char} {c : Char}

theorem isPrefixOf_append_singleton (h : c ∉ word) (line : List Char) :
    word.isPrefixOf (line ++ [c]) = word.isPrefixOf line := by
  induction line generalizing word with
  | nil =>
    cases word with
    | nil => rfl
    | cons d word =>
      have hd : d ≠ c := fun hd => h (hd ▸ List.mem_cons_self)
      simp [List.isPrefixOf, hd]
  | cons d line ih =>
    cases word with
    | nil => rfl
    | cons d' word =>
      have hword : c ∉ word := fun hc => h (List.mem_cons_of_mem _ hc)
      simp [List.isPrefixOf, ih hword]

/-- A character that is not in the word cannot be part of an occurrence. -/
theorem find?_append_singleton (h : c ∉ word) (line : List Char) :
    find? word (line ++ [c]) = find? word line := by
  induction line with
  | nil =>
    have hprefix := isPrefixOf_append_singleton h []
    cases word with
    | nil => rfl
    | cons d word =>
      rw [List.nil_append] at hprefix ⊢
      simp [find?, hprefix]
  | cons d line ih =>
    have hprefix := isPrefixOf_append_singleton h (d :: line)
    rw [List.cons_append] at hprefix ⊢
    simp only [find?, hprefix, ih]

end

/-! ## Offsets -/

/-- Rows and lines are counted alike. -/
theorem offsetFrom_succ (line column row col : Nat) (text : List Char) :
    offsetFrom (line + 1) column (row + 1) col text = offsetFrom line column row col text := by
  induction text generalizing row col with
  | nil => rfl
  | cons c text ih => simp only [offsetFrom, ih, Nat.add_le_add_iff_right]

/-- What lies inside a text lies there whatever follows. -/
theorem offsetFrom_append {line column row col : Nat} {text : List Char}
    (h : offsetFrom line column row col text < byteLength text) (rest : List Char) :
    offsetFrom line column row col (text ++ rest) = offsetFrom line column row col text := by
  induction text generalizing row col with
  | nil => simp [offsetFrom, byteLength] at h
  | cons c text ih =>
    simp only [offsetFrom, byteLength, List.cons_append] at h ⊢
    by_cases hhere : line ≤ row + 1 ∧ column ≤ col + 1
    · rw [if_pos hhere, if_pos hhere]
    rw [if_neg hhere] at h ⊢
    rw [if_neg hhere]
    by_cases hc : c = '\n'
    · rw [if_pos hc] at h ⊢
      rw [if_pos hc, ih (Nat.add_lt_add_iff_left.1 h)]
    · rw [if_neg hc] at h ⊢
      rw [if_neg hc, ih (Nat.add_lt_add_iff_left.1 h)]

theorem offset_append {text : List Char} {line column : Nat}
    (h : offset text line column < byteLength text) (rest : List Char) :
    offset (text ++ rest) line column = offset text line column :=
  offsetFrom_append h rest

/-- In the first row nothing is at or beyond a later line. -/
theorem offsetFrom_first_row {first : List Char} (hfirst : '\n' ∉ first) {line : Nat}
    (hline : 1 ≤ line) (column col : Nat) (text : List Char) :
    offsetFrom (line + 1) column 0 col (first ++ '\n' :: text) =
      byteLength (first ++ ['\n']) + offsetFrom (line + 1) column 1 0 text := by
  -- row zero is the first line, and the line asked for is a later one
  have hbefore (col : Nat) : ¬ (line + 1 ≤ 0 + 1 ∧ column ≤ col + 1) := by omega
  induction first generalizing col with
  | nil =>
    simp only [List.nil_append, offsetFrom, byteLength, if_neg (hbefore col), if_true,
      Nat.add_zero, Nat.zero_add]
  | cons c first ih =>
    have hc : c ≠ '\n' := fun hc => hfirst (hc ▸ List.mem_cons_self)
    have hrest : '\n' ∉ first := fun h => hfirst (List.mem_cons_of_mem _ h)
    simp only [List.cons_append, offsetFrom, byteLength, if_neg (hbefore col), if_neg hc]
    rw [ih hrest]
    omega

/-- A line put in front moves a place down by one line. -/
theorem offset_below {first : List Char} (hfirst : '\n' ∉ first) {line : Nat} (hline : 1 ≤ line)
    (column : Nat) (text : List Char) :
    offset (first ++ '\n' :: text) (line + 1) column =
      byteLength (first ++ ['\n']) + offset text line column := by
  rw [offset, offsetFrom_first_row hfirst hline, offsetFrom_succ, offset]

end Downlevel.Text
