/-
  Downlevel — reading a number.

  An integer that fits 64 bits stays an integer.  Every other number becomes a
  floating-point number: its digits go into a significand below `2 ^ 64` as
  long as they fit, what does not fit moves the exponent or is dropped, and
  one multiplication or division by a power of ten gives the number (so the
  last bit need not be the nearest one).

  * `wholeDigits` and `fractionDigits` collect the digits, `exponentPart` the
    written exponent;
  * `scaled?` is the floating-point number of a significand and an exponent.
-/
import Downlevel.Json.Read.Basic

namespace Downlevel.Json

/-! ## Digits -/

/-- Whether a byte is a decimal digit. -/
def isDigitByte (b : UInt8) : Bool := 0x30 ≤ b && b ≤ 0x39

/-- The value of a decimal digit. -/
def digitValue (b : UInt8) : Nat := b.toNat - 0x30

/-- Whether a digit comes next. -/
def startsWithDigit : Bytes → Bool
  | [] => false
  | b :: _ => isDigitByte b

/-- Appends digits to a number as long as it stays below `bound`; yields the
    number, how many digits were used, and the bytes behind them. -/
def takeDigits (bound n used : Nat) : Bytes → Nat × Nat × Bytes
  | [] => (n, used, [])
  | b :: rest =>
    if isDigitByte b && n * 10 + digitValue b < bound then
      takeDigits bound (n * 10 + digitValue b) (used + 1) rest
    else (n, used, b :: rest)

/-- How many digits come next, and the bytes behind them. -/
def skipDigits (input : Bytes) : Nat × Bytes :=
  ((input.takeWhile isDigitByte).length, input.dropWhile isDigitByte)

/-- The significand stays below this bound. -/
def significandBound : Nat := Nat.pow 2 64

/-- The written exponent stays below this bound. -/
def exponentBound : Nat := Nat.pow 2 31

/-! ## Floating-point numbers -/

/-- A power of ten as a floating-point number. -/
def powerOfTen (e : Nat) : Float := Float.ofScientific 1 false e

/-- Divides by `10 ^ e`, in steps when the power is no floating-point number. -/
def shrink (x : Float) (e : Nat) : Float :=
  if e ≤ 308 then x / powerOfTen e
  else if x == 0 then x
  else shrink (x / powerOfTen 308) (e - 308)
termination_by e

/-- The floating-point number of `significand * 10 ^ exponent`, unless it is
    too large. -/
def scaled? (significand : Nat) (exponent : Int) : Option Float :=
  let x := Float.ofNat significand
  if exponent < 0 then some (shrink x (-exponent).toNat)
  else if exponent ≤ 308 then
    let y := x * powerOfTen exponent.toNat
    if y.isInf then none else some y
  else if significand = 0 then some x
  else none

/-- A number with its sign. -/
def signed (negative : Bool) (x : Float) : Float := if negative then -x else x

/-- The number read, in front of `rest`. -/
def floating (negative : Bool) (significand : Nat) (exponent : Int) (rest : Bytes) :
    Except Stop (Number × Bytes) :=
  match scaled? significand exponent with
  | some x => .ok (.float (signed negative x), rest)
  | none => .error (.here .numberTooLarge rest)

/-- An integer, if it fits 64 bits.  A negative zero does not. -/
def integer (negative : Bool) (n : Nat) : Number :=
  if negative then
    if n = 0 ∨ Nat.pow 2 63 < n then .float (-Float.ofNat n) else .int (-n)
  else .int n

/-! ## The parts of a number -/

/-- The digits of an exponent; `below` tells its sign.  An exponent beyond the
    bound makes the number too large or zero. -/
def exponentDigits (negative : Bool) (significand : Nat) (exponent : Int) (below : Bool)
    (input : Bytes) : Except Stop (Number × Bytes) :=
  let (e, _, rest) := takeDigits exponentBound 0 0 input
  match rest with
  | [] => floating negative significand (if below then exponent - e else exponent + e) []
  | b :: rest =>
    if isDigitByte b then
      if significand ≠ 0 ∧ ¬ below then .error (.here .numberTooLarge rest)
      else .ok (.float (signed negative 0), (skipDigits rest).2)
    else floating negative significand (if below then exponent - e else exponent + e) (b :: rest)

/-- Expects a digit of an exponent. -/
def exponentUnsigned (negative : Bool) (significand : Nat) (exponent : Int) (below : Bool) :
    Bytes → Except Stop (Number × Bytes)
  | [] => .error (.here .endInValue [])
  | b :: rest =>
    if isDigitByte b then exponentDigits negative significand exponent below (b :: rest)
    else .error (.here .badNumber rest)

/-- A number behind the letter of its exponent. -/
def exponentPart (negative : Bool) (significand : Nat) (exponent : Int) :
    Bytes → Except Stop (Number × Bytes)
  | [] => .error (.here .endInValue [])
  | b :: rest =>
    if b = 0x2B then exponentUnsigned negative significand exponent false rest
    else if b = minusByte then exponentUnsigned negative significand exponent true rest
    else exponentUnsigned negative significand exponent false (b :: rest)

/-- Whether a byte is the letter of an exponent. -/
def isExponentLetter (b : UInt8) : Bool := b = 0x65 || b = 0x45

/-- A number behind its point. -/
def fractionDigits (negative : Bool) (significand : Nat) (exponent : Int) (input : Bytes) :
    Except Stop (Number × Bytes) :=
  let (significand, used, rest) := takeDigits significandBound significand 0 input
  let (dropped, rest) := skipDigits rest
  let exponent := exponent - used
  match rest with
  | [] =>
    if used + dropped = 0 then .error (.next .endInValue [])
    else floating negative significand exponent []
  | b :: rest =>
    if used + dropped = 0 then .error (.next .badNumber (b :: rest))
    else if isExponentLetter b then exponentPart negative significand exponent rest
    else floating negative significand exponent (b :: rest)

/-- A number behind its whole digits, of which the last `dropped` ones did not
    fit the significand. -/
def afterWhole (negative : Bool) (significand dropped : Nat) (input : Bytes) :
    Except Stop (Number × Bytes) :=
  let whole : Except Stop (Number × Bytes) :=
    if dropped = 0 then .ok (integer negative significand, input)
    else floating negative significand dropped input
  match input with
  | [] => whole
  | b :: rest =>
    if b = 0x2E then fractionDigits negative significand dropped rest
    else if isExponentLetter b then exponentPart negative significand dropped rest
    else whole

/-- A number behind its sign.  No digit follows a leading zero. -/
def wholeDigits (negative : Bool) : Bytes → Except Stop (Number × Bytes)
  | [] => .error (.here .endInValue [])
  | b :: rest =>
    if b = 0x30 then
      if startsWithDigit rest then .error (.next .badNumber rest)
      else afterWhole negative 0 0 rest
    else if isDigitByte b then
      let (significand, _, rest) := takeDigits significandBound 0 0 (b :: rest)
      let (dropped, rest) := skipDigits rest
      afterWhole negative significand dropped rest
    else .error (.here .badNumber rest)

/-- A number. -/
def number : Bytes → Except Stop (Number × Bytes)
  | [] => .error (.here .endInValue [])
  | b :: rest => if b = minusByte then wholeDigits true rest else wholeDigits false (b :: rest)

end Downlevel.Json
