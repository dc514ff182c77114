/-
  Downlevel — texts as bytes.

  Maps and documents arrive and leave as bytes.  `Bytes.ofString` is the UTF-8
  form of a text and `Bytes.text?` reads it back; bytes that are no UTF-8 have
  no text (`text?_ofString`, `ofString_of_text?`).  `validLength` says how
  many bytes at the start are whole characters; a fault in a string literal is
  reported at that place.
-/

namespace Downlevel

/-- A sequence of bytes. -/
abbrev Bytes : Type := List UInt8

namespace Bytes

/-- The UTF-8 form of a text. -/
def ofString (text : String) : Bytes := text.toUTF8.data.toList

/-- The text with this UTF-8 form. -/
def text? (bytes : Bytes) : Option String := String.fromUTF8? ⟨bytes.toArray⟩

@[simp] theorem text?_ofString (text : String) : text? (ofString text) = some text := by
  have h : (ByteArray.mk text.toByteArray.data).IsValidUTF8 := text.isValidUTF8
  simp [text?, ofString, String.fromUTF8?, String.fromUTF8, h]

theorem ofString_of_text? {bytes : Bytes} {text : String} (h : bytes.text? = some text) :
    ofString text = bytes := by
  simp only [text?, String.fromUTF8?] at h
  split at h
  · cases h; simp [ofString, String.fromUTF8]
  · cases h

theorem ofString_ofList_cons (c : Char) (cs : List Char) :
    ofString (String.ofList (c :: cs)) =
      String.utf8EncodeChar c ++ ofString (String.ofList cs) := by
  simp [ofString, List.utf8Encode]

/-! ## The valid start of a byte sequence -/

/-- A byte that continues a character. -/
def isTail (b : UInt8) : Bool := 0x80 ≤ b && b ≤ 0xBF

/-- How many bytes a character takes that starts with `b`, and the range of
    its second byte.  Overlong forms, surrogates and numbers above `10FFFF`
    are excluded by that range. -/
def characterShape (b : UInt8) : Option (Nat × UInt8 × UInt8) :=
  if b < 0x80 then some (1, 0x80, 0xBF)
  else if b < 0xC2 then none
  else if b < 0xE0 then some (2, 0x80, 0xBF)
  else if b = 0xE0 then some (3, 0xA0, 0xBF)
  else if b = 0xED then some (3, 0x80, 0x9F)
  else if b < 0xF0 then some (3, 0x80, 0xBF)
  else if b = 0xF0 then some (4, 0x90, 0xBF)
  else if b < 0xF4 then some (4, 0x80, 0xBF)
  else if b = 0xF4 then some (4, 0x80, 0x8F)
  else none

/-- The length of the character at the start of the bytes, if a whole one
    stands there. -/
def characterLength? : Bytes → Option Nat
  | [] => none
  | b :: rest => do
    let (length, low, high) ← characterShape b
    match length, rest with
    | 1, _ => some 1
    | 2, c :: _ => if low ≤ c && c ≤ high then some 2 else none
    | 3, c :: d :: _ => if low ≤ c && c ≤ high && isTail d then some 3 else none
    | 4, c :: d :: e :: _ =>
      if low ≤ c && c ≤ high && isTail d && isTail e then some 4 else none
    | _, _ => none

/-- The number of bytes in the whole characters at the start, where the first
    `skip` bytes belong to a character already counted. -/
def validLengthFrom (skip : Nat) : Bytes → Nat
  | [] => 0
  | b :: rest =>
    if skip ≠ 0 then validLengthFrom (skip - 1) rest
    else match characterLength? (b :: rest) with
      | some n => n + validLengthFrom (n - 1) rest
      | none => 0

/-- The number of bytes in the whole characters at the start. -/
def validLength (bytes : Bytes) : Nat := validLengthFrom 0 bytes

end Bytes

end Downlevel
