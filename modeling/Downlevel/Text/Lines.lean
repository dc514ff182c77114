/-
  Downlevel — lines, and searching in them.

  A line ends with a line feed, and a carriage return directly before it
  belongs to the end; the rest after the last line feed is a line only if it
  is not empty, and keeps a trailing carriage return.  Places in a line are
  counted in UTF-8 bytes.

  * `lines` splits a text, `joinLines` joins lines with line feeds;
  * `find?` is the byte offset of the first occurrence of a word;
  * `replaceAll` replaces the occurrences of a word from left to right.
-/

namespace Downlevel.Text

/-! ## Lines -/

/-- A line held in reverse, without the carriage return that ends it. -/
def dropReturn : List Char → List Char
  | '\r' :: line => line
  | line => line

/-- The lines of a text whose first line starts with `line`, held in
    reverse. -/
def linesFrom (line : List Char) : List Char → List (List Char)
  | [] => if line.isEmpty then [] else [line.reverse]
  | c :: rest =>
    if c = '\n' then (dropReturn line).reverse :: linesFrom [] rest
    else linesFrom (c :: line) rest

/-- The lines of a text. -/
def lines (text : List Char) : List (List Char) := linesFrom [] text

/-- The lines with one line feed between each two. -/
def joinLines : List (List Char) → List Char
  | [] => []
  | [line] => line
  | line :: rest => line ++ '\n' :: joinLines rest

/-- A line feed ends a line whatever follows. -/
theorem linesFrom_append (line a b : List Char) :
    linesFrom line (a ++ '\n' :: b) = linesFrom line (a ++ ['\n']) ++ linesFrom [] b := by
  induction a generalizing line with
  | nil => simp [linesFrom]
  | cons c a ih =>
    simp only [List.cons_append, linesFrom]
    split
    · rw [ih, List.cons_append]
    · rw [ih]

/-! ## Words -/

/-- The byte offset of the first occurrence of `word`. -/
def find? (word : List Char) : List Char → Option Nat
  | [] => if word.isEmpty then some 0 else none
  | c :: rest =>
    if word.isPrefixOf (c :: rest) then some 0
    else (find? word rest).map (c.utf8Size + ·)

/-- Replaces `word` by `other`, where the first `skip` characters belong to an
    occurrence already replaced. -/
def replaceFrom (word other : List Char) (skip : Nat) : List Char → List Char
  | [] => []
  | c :: rest =>
    if skip ≠ 0 then replaceFrom word other (skip - 1) rest
    else if word.isPrefixOf (c :: rest) then
      other ++ replaceFrom word other (word.length - 1) rest
    else c :: replaceFrom word other 0 rest

/-- Replaces every occurrence of `word` by `other`, from left to right and
    never inside a replacement.  The word is not empty. -/
def replaceAll (word other text : List Char) : List Char := replaceFrom word other 0 text

end Downlevel.Text
