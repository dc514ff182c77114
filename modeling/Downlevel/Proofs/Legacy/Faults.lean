/-
  Downlevel — faults of a legacy text inside the texts that are made from it.

  The legacy host looks for faults line by line.  A compiler puts a line in
  front of a module and two behind it, and a transform may leave a comment
  behind its code.  None of these lines has a fault, so the first fault of the
  longer text is that of the text itself: in its place if the lines are behind
  it, one line down if one is in front.

  * `LineCheck`: what a check of lines is like, with `lineCheck_markers` and
    `lineCheck_with` for the two checks of the host;
  * `LineCheck.wrapped`: a module inside its function;
  * `LineCheck.commented`: code with a comment behind it, as a unit;
  * `checkAll_wrapped`, `checkAll_commented`: the same for all that the host
    checks;
  * `span_lower`: the place of a fault in a module.
-/
import Downlevel.Compile.Attempt
import Downlevel.Legacy.Host
import Downlevel.Proofs.Text.Places

namespace Downlevel

/-- The same fault one line further down. -/
def Rejection.lower (e : Rejection) : Rejection := { e with line := e.line + 1 }

namespace Legacy

/-! ## Checks of lines -/

/-- The line in front of a module. -/
def openingLine : List Char := "(function(module, exports)\x7b".toList

/-- The line that closes a module. -/
def closingLine : List Char := "\x7d)".toList

/-- The line that refers transformed code to its map. -/
def commentLine : List Char := SourceMap.reference.toList ++ SourceMap.sentinel.toList

/-- A check that looks at one line at a time.  How a line ends does not matter,
    and the lines that are not of the source have no fault. -/
structure LineCheck (check : Nat → List Char → Option Rejection) : Prop where
  line_eq {n line e} : check n line = some e → e.line = n
  lower (n line) : check (n + 1) line = (check n line).map Rejection.lower
  append_return (n line) : check n (line ++ ['\r']) = check n line
  empty (n) : check n [] = none
  opening (n) : check n openingLine = none
  closing (n) : check n closingLine = none
  comment (n) : check n commentLine = none

/-- The fault of a line that holds a word. -/
def wordError? (word : List Char) (message : String) (n : Nat) (line : List Char) :
    Option Rejection :=
  (Text.find? word line).map fun column => ⟨message, n, column + 1⟩

/-- Looking for a word is such a check. -/
theorem lineCheck_word {word : List Char} (message : String) (hreturn : '\r' ∉ word)
    (habsent : ∀ line ∈ [[], openingLine, closingLine, commentLine],
      Text.find? word line = none) :
    LineCheck (wordError? word message) where
  line_eq {n line e} h := by
    obtain ⟨column, -, rfl⟩ := Option.map_eq_some_iff.1 h
    rfl
  lower n line := by
    rw [wordError?, wordError?, Option.map_map]
    rfl
  append_return n line := by rw [wordError?, Text.find?_append_singleton hreturn, wordError?]
  empty n := by rw [wordError?, habsent _ (by simp), Option.map_none]
  opening n := by rw [wordError?, habsent _ (by simp), Option.map_none]
  closing n := by rw [wordError?, habsent _ (by simp), Option.map_none]
  comment n := by rw [wordError?, habsent _ (by simp), Option.map_none]

/-- One check after another is such a check. -/
theorem LineCheck.or {check check' : Nat → List Char → Option Rejection} (h : LineCheck check)
    (h' : LineCheck check') : LineCheck fun n line => (check n line).or (check' n line) where
  line_eq {n line e} he := by
    rcases Option.or_eq_some_iff.1 he with he | ⟨-, he⟩
    · exact h.line_eq he
    · exact h'.line_eq he
  lower n line := by
    rw [h.lower, h'.lower]
    cases check n line <;> rfl
  append_return n line := by rw [h.append_return, h'.append_return]
  empty n := by rw [h.empty, h'.empty, Option.none_or]
  opening n := by rw [h.opening, h'.opening, Option.none_or]
  closing n := by rw [h.closing, h'.closing, Option.none_or]
  comment n := by rw [h.comment, h'.comment, Option.none_or]

theorem lineCheck_markers : LineCheck markerError? := by
  have h : markerError? = fun n line =>
      (wordError? "@@".toList "Unexpected token @" n line).or
        ((wordError? "class ".toList "Unexpected token class" n line).or
          (wordError? "**".toList "Unexpected token **" n line)) := by
    funext n line
    simp only [markerError?, markers, List.findSome?, wordError?]
    cases Text.find? "@@".toList line <;> cases Text.find? "class ".toList line <;>
      cases Text.find? "**".toList line <;> rfl
  rw [h]
  exact (lineCheck_word _ (by decide) (by decide)).or
    ((lineCheck_word _ (by decide) (by decide)).or (lineCheck_word _ (by decide) (by decide)))

theorem lineCheck_with : LineCheck withError? :=
  lineCheck_word _ (by decide) (by decide)

/-! ## The first fault -/

theorem firstError?_append (check : Nat → List Char → Option Rejection) (n : Nat)
    (a b : List (List Char)) :
    firstError? check n (a ++ b) =
      (firstError? check n a).or (firstError? check (n + a.length) b) := by
  induction a generalizing n with
  | nil => simp [firstError?]
  | cons line a ih =>
    simp only [List.cons_append, firstError?]
    cases check n line with
    | some e => rfl
    | none => rw [ih, List.length_cons, Nat.add_right_comm, Nat.add_assoc]

namespace LineCheck

variable {check : Nat → List Char → Option Rejection} (h : LineCheck check)
include h

theorem le_line {n : Nat} {lines : List (List Char)} {e : Rejection}
    (he : firstError? check n lines = some e) : n ≤ e.line := by
  induction lines generalizing n with
  | nil => cases he
  | cons line lines ih =>
    simp only [firstError?] at he
    cases hline : check n line with
    | some e' =>
      rw [hline] at he
      cases he
      exact Nat.le_of_eq (h.line_eq hline).symm
    | none =>
      rw [hline] at he
      exact Nat.le_of_succ_le (ih he)

/-- Lines with greater numbers have their faults further down. -/
theorem firstError?_succ (n : Nat) (lines : List (List Char)) :
    firstError? check (n + 1) lines = (firstError? check n lines).map Rejection.lower := by
  induction lines generalizing n with
  | nil => rfl
  | cons line lines ih =>
    simp only [firstError?, h.lower n line]
    cases check n line with
    | some e => rfl
    | none => exact ih (n + 1)

/-- A line feed at the end of a text brings no fault. -/
theorem firstError?_newline (n : Nat) (line text : List Char) :
    firstError? check n (Text.linesFrom line (text ++ ['\n'])) =
      firstError? check n (Text.linesFrom line text) := by
  induction text generalizing n line with
  | nil =>
    -- the line feed ends the last line, which loses a carriage return by that
    have hdrop : check n (Text.dropReturn line).reverse = check n line.reverse := by
      unfold Text.dropReturn
      split
      · rw [List.reverse_cons, h.append_return]
      · rfl
    cases line with
    | nil => simp [Text.linesFrom, Text.dropReturn, firstError?, h.empty]
    | cons c line => simp [Text.linesFrom, firstError?, hdrop]
  | cons c text ih =>
    simp only [List.cons_append, Text.linesFrom]
    split
    · simp only [firstError?, ih]
    · exact ih n (c :: line)

/-- Nor do lines without a fault. -/
theorem firstError?_lines_append (n : Nat) (text : List Char) {rest : List Char}
    (hrest : ∀ n, firstError? check n (Text.lines rest) = none) :
    firstError? check n (Text.lines (text ++ '\n' :: rest)) =
      firstError? check n (Text.lines text) := by
  rw [Text.lines, Text.linesFrom_append, firstError?_append, h.firstError?_newline]
  rw [Text.lines] at hrest
  rw [hrest, Option.or_none, Text.lines]

theorem firstError?_closing (n : Nat) :
    firstError? check n (Text.lines (closingLine ++ ['\n'])) = none := by
  have : Text.lines (closingLine ++ ['\n']) = [closingLine] := by decide
  rw [this]
  simp [firstError?, h.closing]

theorem firstError?_comment (n : Nat) : firstError? check n (Text.lines commentLine) = none := by
  have : Text.lines commentLine = [commentLine] := by decide
  rw [this]
  simp [firstError?, h.comment]

end LineCheck

/-! ## Texts made by a compiler -/

theorem wrapped_toList (source : String) :
    (wrapped source).toList =
      openingLine ++ '\n' :: (source.toList ++ '\n' :: (closingLine ++ ['\n'])) := by
  have hheader : moduleHeader.toList = openingLine ++ ['\n'] := by decide
  have hfooter : moduleFooter.toList = '\n' :: (closingLine ++ ['\n']) := by decide
  simp [wrapped, hheader, hfooter]

theorem commented_toList (code : String) :
    (code ++ SourceMap.sentinelLine).toList = code.toList ++ '\n' :: commentLine := by
  have hline : SourceMap.sentinelLine.toList = '\n' :: commentLine := by decide
  rw [String.toList_append, hline]

namespace LineCheck

variable {check : Nat → List Char → Option Rejection} (h : LineCheck check)
include h

/-- A module inside its function has the faults of its source, one line further
    down. -/
theorem wrapped (source : String) :
    checkLines check (wrapped source) = (checkLines check source).mapError Rejection.lower := by
  have hopening : Text.linesFrom [] (openingLine ++ ['\n']) = [openingLine] := by decide
  have herror : firstError? check 1 (Text.lines (Downlevel.wrapped source).toList) =
      (firstError? check 1 (Text.lines source.toList)).map Rejection.lower := by
    rw [wrapped_toList, Text.lines, Text.linesFrom_append, hopening]
    simp only [List.singleton_append, firstError?, h.opening]
    rw [← Text.lines, h.firstError?_lines_append _ _ h.firstError?_closing, h.firstError?_succ]
  rw [checkLines, herror, checkLines]
  cases firstError? check 1 (Text.lines source.toList) <;> rfl

/-- The comment behind transformed code brings no fault and moves none. -/
theorem commented (entry : Bool) (code : String) :
    checkLines check (unitText entry (code ++ SourceMap.sentinelLine)) =
      checkLines check (unitText entry code) := by
  have hentry : checkLines check (code ++ SourceMap.sentinelLine) = checkLines check code := by
    rw [checkLines, commented_toList, h.firstError?_lines_append _ _ h.firstError?_comment,
      checkLines]
  cases entry with
  | true => exact hentry
  | false =>
    show checkLines check (Downlevel.wrapped _) = checkLines check (Downlevel.wrapped _)
    rw [h.wrapped, h.wrapped, hentry]

theorem one_le_line {source : String} {e : Rejection}
    (he : checkLines check source = .error e) : 1 ≤ e.line := by
  unfold checkLines at he
  split at he
  · next error herror =>
    cases he
    exact h.le_line herror
  · cases he

end LineCheck

/-! ## Both checks -/

/-- Accepts a text that the host parses and compiles. -/
def checkAll (strict : Bool) (source : String) : Except Rejection Unit := do
  checkMarkers source
  checkStrict strict source

section
variable (strict : Bool)

theorem checkMarkers_wrapped (source : String) :
    checkMarkers (wrapped source) = (checkMarkers source).mapError Rejection.lower :=
  lineCheck_markers.wrapped source

theorem checkAll_wrapped (source : String) :
    checkAll strict (wrapped source) = (checkAll strict source).mapError Rejection.lower := by
  have hstrict : checkStrict strict (wrapped source) =
      (checkStrict strict source).mapError Rejection.lower := by
    cases strict with
    | true => exact lineCheck_with.wrapped source
    | false => rfl
  rw [checkAll, checkMarkers_wrapped, hstrict, checkAll]
  cases checkMarkers source <;> rfl

theorem checkAll_commented (entry : Bool) (code : String) :
    checkAll strict (unitText entry (code ++ SourceMap.sentinelLine)) =
      checkAll strict (unitText entry code) := by
  have hmarkers : checkMarkers (unitText entry (code ++ SourceMap.sentinelLine)) =
      checkMarkers (unitText entry code) := lineCheck_markers.commented entry code
  have hstrict : checkStrict strict (unitText entry (code ++ SourceMap.sentinelLine)) =
      checkStrict strict (unitText entry code) := by
    cases strict with
    | true => exact lineCheck_with.commented entry code
    | false => rfl
  rw [checkAll, hmarkers, hstrict, checkAll]

theorem one_le_line_of_checkAll {source : String} {e : Rejection}
    (h : checkAll strict source = .error e) : 1 ≤ e.line := by
  unfold checkAll at h
  cases hmarkers : checkMarkers source with
  | error e' =>
    rw [hmarkers] at h
    cases h
    exact lineCheck_markers.one_le_line hmarkers
  | ok =>
    rw [hmarkers] at h
    cases strict with
    | true => exact lineCheck_with.one_le_line h
    | false => cases h

end

/-- A fault that lies inside the source lies at the same place inside the
    module, behind the line in front of it. -/
theorem span_lower {e : Rejection} (hline : 1 ≤ e.line) {source : String}
    (hinside : (e.span source).length = 1) :
    e.lower.span (wrapped source) =
      ⟨(e.span source).offset + moduleHeader.utf8ByteSize, 1⟩ := by
  have hopening : '\n' ∉ openingLine := by decide
  have hlength : Text.byteLength (openingLine ++ ['\n']) = moduleHeader.utf8ByteSize := by decide
  have hwithin : Text.offset source.toList e.line e.column < Text.byteLength source.toList := by
    by_cases hlt : Text.offset source.toList e.line e.column < Text.byteLength source.toList
    · exact hlt
    · simp [Rejection.span, hlt] at hinside
  have hoffset : Text.offset (wrapped source).toList e.lower.line e.lower.column =
      Text.offset source.toList e.line e.column + moduleHeader.utf8ByteSize := by
    rw [wrapped_toList, Rejection.lower, Text.offset_below hopening hline, hlength,
      Text.offset_append hwithin, Nat.add_comm]
  have hinside' : Text.offset source.toList e.line e.column + moduleHeader.utf8ByteSize <
      Text.byteLength (wrapped source).toList := by
    rw [wrapped_toList, List.append_cons]
    simp only [Text.byteLength_append, hlength]
    omega
  simp only [Rejection.span, hoffset, if_pos hinside']

end Legacy

end Downlevel
