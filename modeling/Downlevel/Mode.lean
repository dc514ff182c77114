/-
  Downlevel — compatibility modes.

  A mode says which texts a compiler accepts before it gives up: `base` those
  that the host parses, `extended` also those that it parses after one
  transform.  After the transform the compiler goes on in the fallback mode, and
  that is `base`, which has no fallback of its own.

  * `Text.isBlank` is the Unicode property `White_Space`: twenty-five characters,
    most of them outside ASCII;
  * `ofText` reads a name with blanks around it, in any case of ASCII letters;
  * `ofJson` reads a document that names a mode, as a string or as an object
    with that one key and the value null.
-/
import Downlevel.Json.Read.Value

namespace Downlevel

/-! ## Blank characters -/

namespace Text

/-- The blank characters, as ranges of code points with both ends. -/
def blankRanges : List (Nat × Nat) :=
  [(0x09, 0x0D), (0x20, 0x20), (0x85, 0x85), (0xA0, 0xA0), (0x1680, 0x1680), (0x2000, 0x200A),
   (0x2028, 0x2029), (0x202F, 0x202F), (0x205F, 0x205F), (0x3000, 0x3000)]

/-- Whether a character has the property `White_Space`. -/
def isBlank (c : Char) : Bool := blankRanges.any fun r => r.1 ≤ c.toNat && c.toNat ≤ r.2

/-- The text without the blank characters at its start and its end. -/
def trim (text : List Char) : List Char :=
  ((text.dropWhile isBlank).reverse.dropWhile isBlank).reverse

end Text

/-! ## Modes -/

/-- Which texts a compiler accepts. -/
inductive Mode where
  | base
  | extended
  deriving DecidableEq

/-- A text that names no mode. -/
structure UnknownMode where
  text : String
  deriving DecidableEq

/-- The refusal in words. -/
def UnknownMode.describe (unknown : UnknownMode) : String :=
  "invalid compatibility mode `" ++ unknown.text ++ "`, use one of: base, extended"

namespace Mode

/-- The mode of a compiler that was given none. -/
def default : Mode := extended

/-- The modes, in the order in which messages list them. -/
def all : List Mode := [base, extended]

/-- The name of a mode. -/
def name : Mode → String
  | base => "base"
  | extended => "extended"

/-- The name of a mode as a constructor. -/
def constructorName : Mode → String
  | base => "Base"
  | extended => "Extended"

/-- The mode to go on in after a transform. -/
def fallback : Mode → Option Mode
  | base => none
  | extended => some base

/-! ## Reading -/

/-- The mode with exactly this name. -/
def named? (name : String) : Option Mode := all.find? fun m => m.name = name

/-- The mode that a text names, blanks around the name and the case of its
    ASCII letters aside. -/
def ofText (text : String) : Except UnknownMode Mode :=
  match named? (String.ofList ((Text.trim text.toList).map Char.toLower)) with
  | some m => .ok m
  | none => .error ⟨text⟩

open Json in
/-- The string that names a mode, behind its opening mark. -/
def readName (input : Bytes) : Except Stop (Mode × Bytes) := do
  let (name, rest) ← string input
  match named? name with
  | some m => .ok (m, rest)
  | none => .error (.here (.unknownVariant name (all.map Mode.name)) rest)

open Json in
/-- The value null. -/
def readNull (input : Bytes) : Except Stop (Unit × Bytes) :=
  match skipBlanks input with
  | [] => .error (.next .endInValue [])
  | b :: rest =>
    if b = 0x6E then keyword [0x75, 0x6C, 0x6C] rest else wrongKind .unit (b :: rest)

open Json in
/-- The rest of an object that names a mode, behind its opening brace. -/
def readMember (input : Bytes) : Except Stop (Mode × Bytes) :=
  match skipBlanks input with
  | [] => .error (.next .endInObject [])
  | b :: rest =>
    if b = quoteByte then do
      let (m, rest) ← readName rest
      let ((), rest) ← colon rest
      let ((), rest) ← readNull rest
      match skipBlanks rest with
      | [] => .error (.here .endInObject [])
      | b :: rest => if b = closeObject then .ok (m, rest) else .error (.here .noValue (b :: rest))
    else if b = closeObject then .error (.next .noValue (b :: rest))
    else .error (.next .keyNotString (b :: rest))

open Json in
/-- The mode at the start of a document. -/
def read (input : Bytes) : Except Stop (Mode × Bytes) :=
  match skipBlanks input with
  | [] => .error (.next .endInValue [])
  | b :: rest =>
    if b = quoteByte then readName rest
    else if b = openObject then readMember rest
    else .error (.next .noValue (b :: rest))

/-- The mode that a document names. -/
def ofJson (document : Bytes) : Except Json.Fault Mode := Json.readWhole read document

end Mode

end Downlevel
