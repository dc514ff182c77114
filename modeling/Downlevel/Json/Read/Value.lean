/-
  Downlevel — reading a value.

  `scalar` reads a value without parts.  `arrayItems` and `objectMembers` read
  what stands between brackets, given how to read one item; they say exactly
  which comma, colon or bracket is missing.  `value` ties the two together; an
  array or object may stand in at most 126 others.

  * `readValue` reads a document that holds any value, `readObject` one that
    has to hold an object.
-/
import Downlevel.Json.Read.Number
import Downlevel.Json.Read.Text

namespace Downlevel.Json

/-- A value without parts; the input starts with a byte that is not blank. -/
def scalar : Bytes → Except Stop (Scalar × Bytes)
  | [] => .error (.next .endInValue [])
  | b :: rest =>
    if b = 0x6E then do
      let ((), rest) ← keyword [0x75, 0x6C, 0x6C] rest
      .ok (.null, rest)
    else if b = 0x74 then do
      let ((), rest) ← keyword [0x72, 0x75, 0x65] rest
      .ok (.bool true, rest)
    else if b = 0x66 then do
      let ((), rest) ← keyword [0x61, 0x6C, 0x73, 0x65] rest
      .ok (.bool false, rest)
    else if b = minusByte || isDigitByte b then do
      let (n, rest) ← number (b :: rest)
      .ok (.num n, rest)
    else if b = quoteByte then do
      let (s, rest) ← string rest
      .ok (.str s, rest)
    else .error (.next .noValue (b :: rest))

section
variable (item : Bytes → Except Stop (Value × Bytes))

/-! ## Arrays -/

/-- The items of an array behind one of them, at most `fuel` more. -/
def moreItems : Nat → Bytes → Except Stop (List Value × Bytes)
  | 0, input => .error (.next .endInArray input)
  | fuel + 1, input =>
    match skipBlanks input with
    | [] => .error (.next .endInArray [])
    | b :: rest =>
      if b = closeArray then .ok ([], rest)
      else if b = commaByte then
        match skipBlanks rest with
        | [] => .error (.next .endInValue [])
        | c :: rest =>
          if c = closeArray then .error (.next .trailingComma (c :: rest))
          else do
            let (v, rest) ← item (c :: rest)
            let (vs, rest) ← moreItems fuel rest
            .ok (v :: vs, rest)
      else .error (.next .noArrayComma (b :: rest))

/-- The items of an array behind its opening bracket. -/
def arrayItems (input : Bytes) : Except Stop (List Value × Bytes) :=
  match skipBlanks input with
  | [] => .error (.next .endInArray [])
  | b :: rest =>
    if b = closeArray then .ok ([], rest)
    else do
      let (v, rest) ← item (b :: rest)
      let (vs, rest) ← moreItems item rest.length rest
      .ok (v :: vs, rest)

/-! ## Objects -/

/-- The colon behind a key. -/
def colon (input : Bytes) : Except Stop (Unit × Bytes) :=
  match skipBlanks input with
  | [] => .error (.next .endInObject [])
  | b :: rest => if b = colonByte then .ok ((), rest) else .error (.next .noColon (b :: rest))

/-- A key, its colon and its value, behind the mark that opens the key. -/
def member (input : Bytes) : Except Stop ((String × Value) × Bytes) := do
  let (key, rest) ← string input
  let ((), rest) ← colon rest
  let (v, rest) ← item rest
  .ok ((key, v), rest)

/-- The members of an object behind one of them, at most `fuel` more. -/
def moreMembers : Nat → Bytes → Except Stop (List (String × Value) × Bytes)
  | 0, input => .error (.next .endInObject input)
  | fuel + 1, input =>
    match skipBlanks input with
    | [] => .error (.next .endInObject [])
    | b :: rest =>
      if b = closeObject then .ok ([], rest)
      else if b = commaByte then
        match skipBlanks rest with
        | [] => .error (.next .endInValue [])
        | c :: rest =>
          if c = quoteByte then do
            let (m, rest) ← member item rest
            let (ms, rest) ← moreMembers fuel rest
            .ok (m :: ms, rest)
          else if c = closeObject then .error (.next .trailingComma (c :: rest))
          else .error (.next .keyNotString (c :: rest))
      else .error (.next .noObjectComma (b :: rest))

/-- The members of an object behind its opening brace, in written order. -/
def objectMembers (input : Bytes) : Except Stop (List (String × Value) × Bytes) :=
  match skipBlanks input with
  | [] => .error (.next .endInObject [])
  | b :: rest =>
    if b = closeObject then .ok ([], rest)
    else if b = quoteByte then do
      let (m, rest) ← member item rest
      let (ms, rest) ← moreMembers item rest.length rest
      .ok (m :: ms, rest)
    else .error (.next .keyNotString (b :: rest))

end

/-! ## Values -/

/-- A value whose parts, if it may have any, are read by `inner`. -/
def valueOver (inner : Option (Bytes → Except Stop (Value × Bytes))) (input : Bytes) :
    Except Stop (Value × Bytes) :=
  match skipBlanks input with
  | [] => .error (.next .endInValue [])
  | b :: rest =>
    if b = openArray then
      match inner with
      | none => .error (.next .tooDeep (b :: rest))
      | some item => do
        let (vs, rest) ← arrayItems item rest
        .ok (.arr vs, rest)
    else if b = openObject then
      match inner with
      | none => .error (.next .tooDeep (b :: rest))
      | some item => do
        let (ms, rest) ← objectMembers item rest
        .ok (.obj (Entries.ofPairs ms), rest)
    else do
      let (s, rest) ← scalar (b :: rest)
      .ok (.ofScalar s, rest)

/-- A value with arrays and objects nested at most `depth` deep. -/
def value : Nat → Bytes → Except Stop (Value × Bytes)
  | 0 => valueOver none
  | depth + 1 => valueOver (some (value depth))

/-- How deep arrays and objects may be nested. -/
def maxDepth : Nat := 127

/-- Refuses a value that is not of the kind needed.  A value without parts is
    read first, and its own faults come before the refusal. -/
def wrongKind {α : Type} (needed : Needed) : Bytes → Except Stop (α × Bytes)
  | [] => .error (.next .endInValue [])
  | b :: rest =>
    if b = openArray then .error (.here (.wrongKind .arr needed) (b :: rest))
    else if b = openObject then .error (.here (.wrongKind .obj needed) (b :: rest))
    else do
      let (s, rest) ← scalar (b :: rest)
      .error (.here (.wrongKind (.scalar s) needed) rest)

/-- An object with arrays and objects nested at most `maxDepth` deep. -/
def object (input : Bytes) : Except Stop (Object × Bytes) :=
  match skipBlanks input with
  | [] => .error (.next .endInValue [])
  | b :: rest =>
    if b = openObject then do
      let (ms, rest) ← objectMembers (value (maxDepth - 1)) rest
      .ok (.ofPairs ms, rest)
    else wrongKind .object (b :: rest)

/-! ## Documents -/

/-- The value that a document holds. -/
def readValue (document : Bytes) : Except Fault Value := readWhole (value maxDepth) document

/-- The object that a document holds. -/
def readObject (document : Bytes) : Except Fault Object := readWhole object document

end Downlevel.Json
