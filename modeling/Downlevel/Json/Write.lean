/-
  Downlevel — writing a value.

  The text of a value has no blanks, and the keys of an object ascend.  In a
  string only the quotation mark, the backslash and the control characters
  below the space are escaped; all other bytes stand for themselves.
-/
import Downlevel.Json.Read.Basic

namespace Downlevel.Json

/-- A hexadecimal digit below sixteen, in lower case. -/
def hexByte (d : UInt8) : UInt8 := if d < 10 then 0x30 + d else 0x61 + (d - 10)

/-- The letter that escapes a byte, if it has one. -/
def escapeLetter? (b : UInt8) : Option UInt8 :=
  if b = quoteByte then some quoteByte
  else if b = escapeByte then some escapeByte
  else if b = 0x08 then some 0x62
  else if b = 0x09 then some 0x74
  else if b = 0x0A then some 0x6E
  else if b = 0x0C then some 0x66
  else if b = 0x0D then some 0x72
  else none

/-- A byte inside a string. -/
def writeByte (b : UInt8) : Bytes :=
  match escapeLetter? b with
  | some letter => [escapeByte, letter]
  | none =>
    if b < 0x20 then [escapeByte, 0x75, 0x30, 0x30, hexByte (b / 16), hexByte (b % 16)] else [b]

/-- A string between quotation marks. -/
def writeString (s : String) : Bytes :=
  quoteByte :: ((Bytes.ofString s).flatMap writeByte ++ [quoteByte])

/-- A number. -/
def writeNumber (n : Number) : Bytes := Bytes.ofString n.text

mutual

/-- The text of a value. -/
def write : Value → Bytes
  | .null => [0x6E, 0x75, 0x6C, 0x6C]
  | .bool true => [0x74, 0x72, 0x75, 0x65]
  | .bool false => [0x66, 0x61, 0x6C, 0x73, 0x65]
  | .num n => writeNumber n
  | .str s => writeString s
  | .arr items => openArray :: writeItems items
  | .obj entries => openObject :: writeEntries entries

/-- The items of an array and its closing bracket. -/
def writeItems : List Value → Bytes
  | [] => [closeArray]
  | v :: vs => write v ++ writeMoreItems vs

/-- The items behind one of them and the closing bracket. -/
def writeMoreItems : List Value → Bytes
  | [] => [closeArray]
  | v :: vs => commaByte :: (write v ++ writeMoreItems vs)

/-- The entries of an object and its closing brace. -/
def writeEntries : List (String × Value) → Bytes
  | [] => [closeObject]
  | (key, v) :: es => writeString key ++ colonByte :: (write v ++ writeMoreEntries es)

/-- The entries behind one of them and the closing brace. -/
def writeMoreEntries : List (String × Value) → Bytes
  | [] => [closeObject]
  | (key, v) :: es =>
    commaByte :: (writeString key ++ colonByte :: (write v ++ writeMoreEntries es))

end

/-- The text of an object. -/
def writeObject (o : Object) : Bytes := write (.ofObject o)

end Downlevel.Json
