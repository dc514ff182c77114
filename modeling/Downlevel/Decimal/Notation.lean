/-
  Downlevel — how a floating-point number is written.

  The digits are the fewest that read back.  A number from `1e-5` and below
  `1e16` stands in plain notation with at least one digit behind the point;
  all others in scientific notation, where the exponent carries its sign.
  Zero is `0.0` and keeps its sign.
-/
import Downlevel.Decimal.Shortest

namespace Downlevel.Decimal

/-- The digits of `c` without the zeros at their end, and the power of ten of
    the first one in `c * 10 ^ k`. -/
def significant (c : Nat) (k : Int) : List Nat × Int :=
  let ds := digits c
  ((ds.reverse.dropWhile (· = 0)).reverse, k + ds.length - 1)

/-- Digits in plain notation, the first one worth `10 ^ exponent`. -/
def plain (ds : List Nat) (exponent : Int) : List Char :=
  if exponent < 0 then
    ['0', '.'] ++ List.replicate (-exponent - 1).toNat '0' ++ ds.map digitChar
  else
    let whole := exponent.toNat + 1
    let fraction := ds.drop whole
    (ds.take whole).map digitChar ++ List.replicate (whole - ds.length) '0' ++ ['.'] ++
      (if fraction.isEmpty then ['0'] else fraction.map digitChar)

/-- Digits in scientific notation, the first one worth `10 ^ exponent`. -/
def scientific (ds : List Nat) (exponent : Int) : List Char :=
  let point := if ds.length ≤ 1 then [] else ['.']
  let sign := if exponent < 0 then '-' else '+'
  (ds.take 1).map digitChar ++ point ++ (ds.drop 1).map digitChar ++ ['e', sign] ++
    text exponent.natAbs

/-- The exponents written in plain notation. -/
def isPlain (exponent : Int) : Bool := -5 ≤ exponent && exponent < 16

/-- A finite floating-point number in decimal. -/
def ofFloat (x : Float) : List Char :=
  let bits := x.toBits.toNat
  let sign := if bits / Nat.pow 2 63 = 1 then ['-'] else []
  let size := bits % Nat.pow 2 63
  if size = 0 then sign ++ ['0', '.', '0']
  else
    let (c, k) := (Interval.ofBits size).shortest
    let (ds, exponent) := significant c k
    sign ++ if isPlain exponent then plain ds exponent else scientific ds exponent

end Downlevel.Decimal
