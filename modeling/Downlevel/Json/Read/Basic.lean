/-
  Downlevel — reading a document: blanks and keywords.

  Each function that reads takes a part from the start of the bytes and yields
  what it means and the bytes that follow, or stops.  `skipBlanks` drops the
  four blank bytes, `keyword` expects the given letters, and `readWhole` makes
  a reading of a part one of a whole document.
-/
import Downlevel.Json.Fault

namespace Downlevel.Json

/-- Whether a byte is a space, tab, line feed or carriage return. -/
def isBlankByte (b : UInt8) : Bool := b = 0x20 || b = 0x09 || b = 0x0A || b = 0x0D

/-- The bytes from the first one that is not blank. -/
def skipBlanks (input : Bytes) : Bytes := input.dropWhile isBlankByte

/-- Expects these letters. -/
def keyword : Bytes → Bytes → Except Stop (Unit × Bytes)
  | [], input => .ok ((), input)
  | _ :: _, [] => .error (.here .endInValue [])
  | c :: letters, b :: rest =>
    if b = c then keyword letters rest else .error (.here .badKeyword rest)

/-- What was read, if only blanks follow. -/
def finish {α : Type} (reading : Except Stop (α × Bytes)) : Except Stop α := do
  let (a, rest) ← reading
  match skipBlanks rest with
  | [] => .ok a
  | b :: rest => .error (.next .trailingCharacters (b :: rest))

/-- A whole document, read from its first byte to its last. -/
def readWhole {α : Type} (read : Bytes → Except Stop (α × Bytes)) (document : Bytes) :
    Except Fault α :=
  (finish (read document)).mapError (·.locate document)

/-! ## Bytes with a meaning -/

/-- The quotation mark. -/
def quoteByte : UInt8 := 0x22

/-- The backslash. -/
def escapeByte : UInt8 := 0x5C

/-- The comma between items. -/
def commaByte : UInt8 := 0x2C

/-- The colon between a key and its value. -/
def colonByte : UInt8 := 0x3A

/-- The brackets around an array. -/
def openArray : UInt8 := 0x5B

/-- The bracket that ends an array. -/
def closeArray : UInt8 := 0x5D

/-- The brace that starts an object. -/
def openObject : UInt8 := 0x7B

/-- The brace that ends an object. -/
def closeObject : UInt8 := 0x7D

/-- The minus sign. -/
def minusByte : UInt8 := 0x2D

end Downlevel.Json
