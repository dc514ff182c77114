/-
  Downlevel — the place that a line and a column stand for.

  The walk to a place counts rows and columns in characters and the offset in
  bytes.  What relates the three is the row and the column that the text in
  front of the place leads to (`behind`): it has as many line feeds as the row
  says, and as many characters behind the last one as the column says.

  * `offsetFrom_split`: the walk always stops between two characters;
  * `offsetFrom_of_behind`: it stops where a text leads to the place;
  * `CompileError.label_points`: the span in the report of a rejected text is
    inside the text, and at the line and the column, if the text has them.
-/
import Downlevel.Compile.Failure
import Mathlib.Data.List.Induction

namespace Downlevel

namespace Text

/-! ## Rows and columns -/

/-- The row and the column behind a text that starts in row `row` and column
    `col`, all counted from zero. -/
def behind (row col : Nat) : List Char → Nat × Nat
  | [] => (row, col)
  | c :: rest => if c = '\n' then behind (row + 1) 0 rest else behind row (col + 1) rest

theorem behind_append (row col : Nat) (a b : List Char) :
    behind row col (a ++ b) = behind (behind row col a).1 (behind row col a).2 b := by
  induction a generalizing row col with
  | nil => rfl
  | cons c a ih =>
    simp only [List.cons_append, behind]
    split
    · exact ih (row + 1) 0
    · exact ih row (col + 1)

/-- The row counts the line feeds, the column the characters behind the last
    of them. -/
theorem behind_zero (text : List Char) :
    behind 0 0 text = (text.count '\n', (text.reverse.takeWhile (· ≠ '\n')).length) := by
  induction text using List.reverseRecOn with
  | nil => rfl
  | append_singleton text c ih =>
    rw [behind_append, ih, List.reverse_append, List.count_append]
    by_cases hc : c = '\n'
    · simp [behind, hc]
    · simp [behind, hc]

/-- A text leads to a later row, or on in the same one. -/
theorem lt_or_eq_of_behind {row col row' col' : Nat} {text : List Char}
    (h : behind row col text = (row', col')) :
    row < row' ∨ row = row' ∧ col + text.length = col' := by
  induction text generalizing row col with
  | nil =>
    cases h
    exact .inr ⟨rfl, rfl⟩
  | cons c text ih =>
    simp only [behind] at h
    split at h
    · rcases ih h with hrow | ⟨hrow, -⟩
      · exact .inl (Nat.lt_of_succ_lt hrow)
      · exact .inl (hrow ▸ Nat.lt_succ_self row)
    · refine (ih h).imp_right fun ⟨hrow, hcol⟩ => ⟨hrow, ?_⟩
      rw [← hcol, List.length_cons]
      omega

/-! ## The walk -/

/-- The walk stops between two characters. -/
theorem offsetFrom_split (line column row col : Nat) (text : List Char) :
    ∃ before after, text = before ++ after ∧
      byteLength before = offsetFrom line column row col text := by
  induction text generalizing row col with
  | nil => exact ⟨[], [], rfl, rfl⟩
  | cons c text ih =>
    simp only [offsetFrom]
    split
    · exact ⟨[], c :: text, rfl, rfl⟩
    have hnext (row col : Nat) : ∃ before after, c :: text = before ++ after ∧
        byteLength before = c.utf8Size + offsetFrom line column row col text := by
      obtain ⟨before, after, htext, hlength⟩ := ih row col
      exact ⟨c :: before, after, by rw [htext, List.cons_append], by rw [byteLength, hlength]⟩
    split
    · exact hnext (row + 1) 0
    · exact hnext row (col + 1)

/-- It stops behind a text that leads to the line and the column, and not
    sooner. -/
theorem offsetFrom_of_behind {line column row col : Nat} {before : List Char}
    (h : behind row col before = (line, column)) (after : List Char) :
    offsetFrom (line + 1) (column + 1) row col (before ++ after) = byteLength before := by
  induction before generalizing row col with
  | nil =>
    cases h
    cases after with
    | nil => rfl
    | cons c after =>
      rw [List.nil_append, offsetFrom, if_pos ⟨Nat.le_refl _, Nat.le_refl _⟩]
      rfl
  | cons c before ih =>
    -- a place further on is not reached yet
    have hbefore : ¬ (line + 1 ≤ row + 1 ∧ column + 1 ≤ col + 1) := by
      rcases lt_or_eq_of_behind h with hrow | ⟨hrow, hcol⟩
      · omega
      · rw [List.length_cons] at hcol
        omega
    simp only [behind] at h
    rw [List.cons_append, offsetFrom, if_neg hbefore, byteLength]
    split at h
    · rename_i hc
      rw [if_pos hc, ih h]
    · rename_i hc
      rw [if_neg hc, ih h]

/-! ## Places that a text has -/

/-- The text has the line, and the column is in it or right behind its last
    character. -/
def HasPlace (text : List Char) (line column : Nat) : Prop :=
  1 ≤ line ∧ 1 ≤ column ∧
    ∃ content, (text.splitOn '\n')[line - 1]? = some content ∧ column - 1 ≤ content.length

theorem splitOn_newline (text : List Char) :
    ('\n' :: text).splitOn '\n' = [] :: text.splitOn '\n' := by
  rw [List.splitOn, List.splitOnP_cons_eq_if_modifyHead, if_pos (by decide)]
  rfl

/-- A character that ends no line belongs to the first one. -/
theorem splitOn_cons {c : Char} (hc : c ≠ '\n') (text : List Char) :
    ∃ first more, text.splitOn '\n' = first :: more ∧
      (c :: text).splitOn '\n' = (c :: first) :: more := by
  obtain ⟨first, more, hsplit⟩ :=
    List.exists_cons_of_ne_nil (List.splitOnP_ne_nil (· == '\n') text)
  refine ⟨first, more, hsplit, ?_⟩
  rw [List.splitOn, List.splitOnP_cons_eq_if_modifyHead, if_neg (by simpa using hc), hsplit]
  rfl

/-- A text leads to every place in one of its lines.  Only in the first line the
    column counts on from where the text starts. -/
theorem exists_behind {text content : List Char} {n k : Nat}
    (hline : (text.splitOn '\n')[n]? = some content) (hcolumn : k ≤ content.length)
    (row col : Nat) :
    ∃ before after, text = before ++ after ∧
      behind row col before = (row + n, (if n = 0 then col else 0) + k) := by
  induction text generalizing n k content row col with
  | nil =>
    rw [List.splitOn_nil] at hline
    cases n with
    | zero =>
      cases hline
      cases hcolumn
      exact ⟨[], [], rfl, rfl⟩
    | succ n => cases hline
  | cons c text ih =>
    by_cases hc : c = '\n'
    · subst hc
      rw [splitOn_newline] at hline
      cases n with
      | zero =>
        cases hline
        cases hcolumn
        exact ⟨[], _, rfl, rfl⟩
      | succ n =>
        obtain ⟨before, after, htext, hbehind⟩ := ih hline hcolumn (row + 1) 0
        refine ⟨'\n' :: before, after, by rw [htext, List.cons_append], ?_⟩
        rw [behind, if_pos rfl, hbehind, ite_self, if_neg (Nat.succ_ne_zero n), Nat.add_assoc,
          Nat.add_comm 1]
    · obtain ⟨first, more, hsplit, hsplit'⟩ := splitOn_cons hc text
      rw [hsplit'] at hline
      cases n with
      | zero =>
        cases hline
        cases k with
        | zero => exact ⟨[], _, rfl, rfl⟩
        | succ k =>
          have hfirst : (text.splitOn '\n')[0]? = some first := by rw [hsplit]; rfl
          obtain ⟨before, after, htext, hbehind⟩ :=
            ih hfirst (Nat.le_of_succ_le_succ hcolumn) row (col + 1)
          refine ⟨c :: before, after, by rw [htext, List.cons_append], ?_⟩
          rw [behind, if_neg hc, hbehind, if_pos rfl, if_pos rfl, Nat.add_assoc, Nat.add_comm 1]
      | succ n =>
        have hlater : (text.splitOn '\n')[n + 1]? = some content := by rw [hsplit]; exact hline
        obtain ⟨before, after, htext, hbehind⟩ := ih hlater hcolumn row (col + 1)
        refine ⟨c :: before, after, by rw [htext, List.cons_append], ?_⟩
        rw [behind, if_neg hc, hbehind, if_neg (Nat.succ_ne_zero n), if_neg (Nat.succ_ne_zero n)]

/-- The walk to a place that a text has ends behind as many line feeds, and as
    many characters behind the last of them, as the place says. -/
theorem offset_of_hasPlace {text : List Char} {line column : Nat} (h : HasPlace text line column) :
    ∃ before after, text = before ++ after ∧ byteLength before = offset text line column ∧
      before.count '\n' = line - 1 ∧
      (before.reverse.takeWhile (· ≠ '\n')).length = column - 1 := by
  obtain ⟨hline, hcolumn, content, hcontent, hlength⟩ := h
  obtain ⟨before, after, htext, hbehind⟩ := exists_behind hcontent hlength 0 0
  rw [Nat.zero_add, ite_self, Nat.zero_add] at hbehind
  have hoffset := offsetFrom_of_behind hbehind after
  rw [Nat.sub_add_cancel hline, Nat.sub_add_cancel hcolumn, ← htext] at hoffset
  rw [behind_zero] at hbehind
  injection hbehind with hcount hlast
  exact ⟨before, after, htext, hoffset.symm, hcount, hlast⟩

end Text

/-! ## Spans -/

/-- The span is inside the source, starts between two characters, and covers
    one byte unless it is at the end.  If the source has the line and the column,
    the text in front of the span leads there. -/
structure Span.Points (span : Span) (source : String) (line column : Nat) : Prop where
  boundary : (String.Pos.Raw.mk span.offset).IsValid source
  offset_le : span.offset ≤ source.utf8ByteSize
  end_le : span.offset + span.length ≤ source.utf8ByteSize
  length_eq : span.length = if span.offset < source.utf8ByteSize then 1 else 0
  located : Text.HasPlace source.toList line column → ∃ before after : String,
    source = before ++ after ∧ before.utf8ByteSize = span.offset ∧
      before.toList.count '\n' = line - 1 ∧
      (before.toList.reverse.takeWhile (· ≠ '\n')).length = column - 1

/-- A text in two parts as a string in two parts. -/
theorem Text.eq_append_of_toList {source : String} {before after : List Char}
    (h : source.toList = before ++ after) :
    source = String.ofList before ++ String.ofList after := by
  rw [← String.ofList_append, ← h, String.ofList_toList]

theorem Text.utf8ByteSize_ofList (text : List Char) :
    (String.ofList text).utf8ByteSize = byteLength text := by
  rw [← byteLength_toList, String.toList_ofList]

theorem Rejection.span_points (error : Rejection) (source : String) :
    (error.span source).Points source error.line error.column := by
  have hsize : Text.byteLength source.toList = source.utf8ByteSize := Text.byteLength_toList source
  have hlength : (error.span source).length =
      if (error.span source).offset < source.utf8ByteSize then 1 else 0 := by
    rw [← hsize]
    rfl
  have hle : (error.span source).offset ≤ source.utf8ByteSize :=
    hsize ▸ Text.offsetFrom_le error.line error.column source.toList 0 0
  refine ⟨?_, hle, ?_, hlength, fun h => ?_⟩
  · obtain ⟨before, after, htext, hoffset⟩ :=
      Text.offsetFrom_split error.line error.column 0 0 source.toList
    refine String.Pos.Raw.isValid_iff_exists_append.2
      ⟨_, _, Text.eq_append_of_toList htext, ?_⟩
    rw [String.Pos.Raw.ext_iff, String.byteIdx_rawEndPos, Text.utf8ByteSize_ofList, hoffset]
    rfl
  · rw [hlength]
    split <;> omega
  · obtain ⟨before, after, htext, hoffset, hrow, hcolumn⟩ := Text.offset_of_hasPlace h
    refine ⟨_, _, Text.eq_append_of_toList htext, ?_, ?_, ?_⟩
    · rw [Text.utf8ByteSize_ofList, hoffset]
      rfl
    · rwa [String.toList_ofList]
    · rwa [String.toList_ofList]

/-- **Where a rejected text is reported.**  Whatever line and column the host
    names, the label of the report is a part of the text it rejected, and it is at that
    line and column if the text has them. -/
theorem CompileError.label_points (filename source : String) (error : Rejection) :
    ∃ span, (CompileError.rejected filename error source).label = some ("here", span) ∧
      span.Points source error.line error.column :=
  ⟨error.span source, rfl, error.span_points source⟩

example : (⟨"", 3, 2⟩ : Rejection).span "é\r\n\nxü" = ⟨6, 1⟩ := by decide

end Downlevel
