/-
  Downlevel — from a line and a column to a place in the text.

  Lines and columns count from one, columns in characters; a place is a byte
  offset.  `offset` walks over the characters and stops in front of the first
  one at or beyond the line and column asked for, so a line or column that is
  too large runs to the end of the text, and a zero counts as a one.
-/

namespace Downlevel.Text

/-- The length of a text in bytes. -/
def byteLength : List Char → Nat
  | [] => 0
  | c :: rest => c.utf8Size + byteLength rest

@[simp] theorem byteLength_append (a b : List Char) :
    byteLength (a ++ b) = byteLength a + byteLength b := by
  induction a with
  | nil => simp [byteLength]
  | cons c rest ih =>
    simp only [List.cons_append, byteLength, ih]
    omega

/-- The length counts the bytes of the UTF-8 form. -/
theorem byteLength_toList (s : String) : byteLength s.toList = s.utf8ByteSize := by
  suffices ∀ l : List Char, byteLength l = (String.ofList l).utf8ByteSize by
    rw [this, String.ofList_toList]
  intro l
  induction l with
  | nil => simp [byteLength]
  | cons c l ih =>
    have hl : String.ofList (c :: l) = String.ofList [c] ++ String.ofList l := by
      rw [← String.ofList_append]; rfl
    have hc : (String.ofList [c]).utf8ByteSize = c.utf8Size := by
      rw [← String.singleton_eq_ofList, String.utf8ByteSize_singleton]
    rw [hl, String.utf8ByteSize_append, hc, ← ih]
    simp [byteLength]

/-- The bytes from row `row` and column `col`, both counted from zero, to the
    place of `line` and `column`. -/
def offsetFrom (line column row col : Nat) : List Char → Nat
  | [] => 0
  | c :: rest =>
    if line ≤ row + 1 ∧ column ≤ col + 1 then 0
    else c.utf8Size +
      (if c = '\n' then offsetFrom line column (row + 1) 0 rest
       else offsetFrom line column row (col + 1) rest)

/-- The byte offset of a line and a column in a text. -/
def offset (text : List Char) (line column : Nat) : Nat := offsetFrom line column 0 0 text

/-- An offset never points behind the text. -/
theorem offsetFrom_le (line column : Nat) (text : List Char) :
    ∀ row col, offsetFrom line column row col text ≤ byteLength text := by
  induction text with
  | nil => intro row col; simp [offsetFrom, byteLength]
  | cons c rest ih =>
    intro row col
    simp only [offsetFrom, byteLength]
    split
    · omega
    · split
      · have := ih (row + 1) 0; omega
      · have := ih row (col + 1); omega

end Downlevel.Text
