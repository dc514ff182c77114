/-
  Downlevel — reading a string.

  Between the quotation marks stand bytes that mean themselves and escapes.
  `textPart` reads one of the two, `textFrom` all up to the closing mark.  Only
  then the collected bytes are taken for UTF-8, so a fault in the encoding is
  reported behind the closing mark, moved back by the part that is no text.
-/
import Downlevel.Json.Read.Basic

namespace Downlevel.Json

/-- The value of a hexadecimal digit. -/
def hexDigit? (b : UInt8) : Option Nat :=
  if 0x30 ≤ b && b ≤ 0x39 then some (b.toNat - 0x30)
  else if 0x61 ≤ b && b ≤ 0x66 then some (b.toNat - 0x61 + 10)
  else if 0x41 ≤ b && b ≤ 0x46 then some (b.toNat - 0x41 + 10)
  else none

/-- Four hexadecimal digits. -/
def hexUnit : Bytes → Except Stop (Nat × Bytes)
  | a :: b :: c :: d :: rest =>
    match hexDigit? a, hexDigit? b, hexDigit? c, hexDigit? d with
    | some a, some b, some c, some d => .ok (((a * 16 + b) * 16 + c) * 16 + d, rest)
    | _, _, _, _ => .error (.here .badEscape rest)
  | _ => .error (.here .endInString [])

/-- Expects the byte of an escape that continues a surrogate pair. -/
def pairByte (expected : UInt8) : Bytes → Except Stop (Unit × Bytes)
  | [] => .error (.here .endInString [])
  | b :: rest => if b = expected then .ok ((), rest) else .error (.here .unpairedSurrogate rest)

/-- The code point of an escape behind its `u`.  A leading surrogate needs a
    trailing one in a second escape. -/
def codePoint (input : Bytes) : Except Stop (Nat × Bytes) := do
  let (lead, rest) ← hexUnit input
  if 0xDC00 ≤ lead ∧ lead ≤ 0xDFFF then .error (.here .loneSurrogate rest)
  else if lead < 0xD800 ∨ 0xDBFF < lead then .ok (lead, rest)
  else
    let ((), rest) ← pairByte escapeByte rest
    let ((), rest) ← pairByte 0x75 rest
    let (trail, rest) ← hexUnit rest
    if trail < 0xDC00 ∨ 0xDFFF < trail then .error (.here .loneSurrogate rest)
    else .ok ((lead - 0xD800) * 0x400 + (trail - 0xDC00) + 0x10000, rest)

/-- The byte that an escape with one letter stands for. -/
def escaped? (letter : UInt8) : Option UInt8 :=
  if letter = quoteByte then some quoteByte
  else if letter = escapeByte then some escapeByte
  else if letter = 0x2F then some 0x2F
  else if letter = 0x62 then some 0x08
  else if letter = 0x66 then some 0x0C
  else if letter = 0x6E then some 0x0A
  else if letter = 0x72 then some 0x0D
  else if letter = 0x74 then some 0x09
  else none

/-- The bytes of an escape behind its backslash. -/
def escape : Bytes → Except Stop (Bytes × Bytes)
  | [] => .error (.here .endInString [])
  | letter :: rest =>
    match escaped? letter with
    | some b => .ok ([b], rest)
    | none =>
      if letter = 0x75 then do
        let (n, rest) ← codePoint rest
        .ok (String.utf8EncodeChar (Char.ofNat n), rest)
      else .error (.here .badEscape rest)

/-- The bytes of the next part of a string, or nothing for the mark that
    closes it. -/
def textPart : Bytes → Except Stop (Option Bytes × Bytes)
  | [] => .error (.here .endInString [])
  | b :: rest =>
    if b = quoteByte then .ok (none, rest)
    else if b = escapeByte then do
      let (bytes, rest) ← escape rest
      .ok (some bytes, rest)
    else if b < 0x20 then .error (.here .controlCharacter rest)
    else .ok (some [b], rest)

/-- The bytes of a string up to the closing mark, in at most `fuel` parts. -/
def textFrom : Nat → Bytes → Except Stop (Bytes × Bytes)
  | 0, _ => .error (.here .endInString [])
  | fuel + 1, input => do
    match ← textPart input with
    | (none, rest) => .ok ([], rest)
    | (some bytes, rest) =>
      let (more, rest) ← textFrom fuel rest
      .ok (bytes ++ more, rest)

/-- A string behind its opening mark. -/
def string (input : Bytes) : Except Stop (String × Bytes) := do
  let (bytes, rest) ← textFrom (input.length + 1) input
  match bytes.text? with
  | some s => .ok (s, rest)
  | none => .error ⟨.badEncoding, rest.length, bytes.length - Bytes.validLength bytes⟩

end Downlevel.Json
