/-
  Downlevel — why and where a document is refused.

  A `Cause` says what is wrong, a `Place` where: either at the bytes consumed
  so far or at the byte that comes next.  While a document is read the place
  is held by what is left of it (`Stop`); `Stop.locate` turns it into the line
  and column of a `Fault`.  Lines count from one; the column is the number of
  bytes of the line in front of the place.
-/
import Downlevel.Decimal.Notation
import Downlevel.Json.Value
import Downlevel.Text.Bytes
import Downlevel.Text.Quoted

namespace Downlevel.Json

/-! ## Causes -/

/-- What a document holds where something else is needed. -/
inductive Found where
  | scalar (s : Scalar)
  | arr
  | obj

/-- What is needed instead. -/
inductive Needed where
  | object
  | unit

/-- What is wrong with a document. -/
inductive Cause where
  | endInValue
  | endInString
  | endInArray
  | endInObject
  | badKeyword
  | noValue
  | badNumber
  | numberTooLarge
  | controlCharacter
  | badEscape
  | loneSurrogate
  | unpairedSurrogate
  | badEncoding
  | noArrayComma
  | noObjectComma
  | noColon
  | keyNotString
  | trailingComma
  | trailingCharacters
  | tooDeep
  | wrongKind (found : Found) (needed : Needed)
  | unknownVariant (name : String) (known : List String)

namespace Number

/-- A number in decimal. -/
def text : Number → String
  | .int n => String.ofList ((if n < 0 then ['-'] else []) ++ Decimal.text n.natAbs)
  | .float x => String.ofList (Decimal.ofFloat x)

end Number

/-- What was found, in words. -/
def Found.describe : Found → String
  | .scalar .null => "null"
  | .scalar (.bool true) => "boolean `true`"
  | .scalar (.bool false) => "boolean `false`"
  | .scalar (.num (.int n)) => "integer `" ++ (Number.int n).text ++ "`"
  | .scalar (.num (.float x)) => "floating point `" ++ (Number.float x).text ++ "`"
  | .scalar (.str s) => "string " ++ Text.quoted s
  | .arr => "sequence"
  | .obj => "map"

/-- What was needed, in words. -/
def Needed.describe : Needed → String
  | .object => "a map"
  | .unit => "unit"

/-- The known names, each in backticks. -/
def describeNames (names : List String) : String :=
  String.intercalate " or " (names.map fun name => "`" ++ name ++ "`")

/-- A cause in words. -/
def Cause.describe : Cause → String
  | endInValue => "EOF while parsing a value"
  | endInString => "EOF while parsing a string"
  | endInArray => "EOF while parsing a list"
  | endInObject => "EOF while parsing an object"
  | badKeyword => "expected ident"
  | noValue => "expected value"
  | badNumber => "invalid number"
  | numberTooLarge => "number out of range"
  | controlCharacter =>
    "control character (\\u0000-\\u001F) found while parsing a string"
  | badEscape => "invalid escape"
  | loneSurrogate => "lone leading surrogate in hex escape"
  | unpairedSurrogate => "unexpected end of hex escape"
  | badEncoding => "invalid unicode code point"
  | noArrayComma => "expected `,` or `]`"
  | noObjectComma => "expected `,` or `\x7d`"
  | noColon => "expected `:`"
  | keyNotString => "key must be a string"
  | trailingComma => "trailing comma"
  | trailingCharacters => "trailing characters"
  | tooDeep => "recursion limit exceeded"
  | wrongKind found needed =>
    "invalid type: " ++ found.describe ++ ", expected " ++ needed.describe
  | unknownVariant name known =>
    "unknown variant `" ++ name ++ "`, expected " ++ describeNames known

/-! ## Places -/

/-- A refusal while the document is being read: the cause, how many bytes lie
    behind the place, and how many columns it is moved back. -/
structure Stop where
  cause : Cause
  left : Nat
  back : Nat

/-- A refusal at the bytes consumed so far, in front of `rest`. -/
def Stop.here (cause : Cause) (rest : Bytes) : Stop := ⟨cause, rest.length, 0⟩

/-- A refusal of the next byte of `rest`, or at its end if there is none. -/
def Stop.next (cause : Cause) (rest : Bytes) : Stop := ⟨cause, rest.length - 1, 0⟩

/-- A refused document: the cause, the line and the column. -/
structure Fault where
  cause : Cause
  line : Nat
  column : Nat

/-- The line feed. -/
def lineFeed : UInt8 := 10

/-- The fault of a document for a refusal while it was read. -/
def Stop.locate (stop : Stop) (document : Bytes) : Fault :=
  let before := document.take (document.length - stop.left)
  { cause := stop.cause
    line := 1 + before.count lineFeed
    column := (before.reverse.takeWhile (· ≠ lineFeed)).length - stop.back }

/-- A fault in words. -/
def Fault.describe (fault : Fault) : String :=
  fault.cause.describe ++ " at line " ++ toString fault.line ++ " column " ++ toString fault.column

end Downlevel.Json
