/-
  Downlevel — the fewest digits that read back.

  A double stands for a fraction, and so do the ends of the interval of the
  reals that round to it; `Interval.ofBits` computes the three in one unit.
  The decimals with `n` digits form a grid; `Interval.onGrid?` tests the two
  neighbours of the value on it in exact arithmetic.  `Interval.shortest` is
  the hit on the coarsest grid: of two hits the nearer one, and in an exact
  tie the even one.
-/
import Downlevel.Decimal.Digits

namespace Downlevel.Decimal

/-- A positive number and the interval of the numbers that round to it, as
    multiples of `1 / unit`. -/
structure Interval where
  low : Nat
  value : Nat
  high : Nat
  unit : Nat
  /-- Whether the two ends round to the value too. -/
  closed : Bool

namespace Interval

/-- The interval of the positive finite double with these bits.  The gap below
    a power of two is half as wide as the one above it. -/
def ofBits (bits : Nat) : Interval :=
  let fraction := bits % Nat.pow 2 52
  let field := bits / Nat.pow 2 52 % Nat.pow 2 11
  let significand := if field = 0 then fraction else fraction + Nat.pow 2 52
  let exponent : Int := (max field 1 : Nat) - 1075
  let scale := Nat.pow 2 exponent.toNat
  { low := (4 * significand - if fraction = 0 ∧ 1 < field then 1 else 2) * scale
    value := 4 * significand * scale
    high := (4 * significand + 2) * scale
    unit := 4 * Nat.pow 2 (-exponent).toNat
    closed := significand % 2 = 0 }

/-- The power of ten at or below the value. -/
def magnitude (i : Interval) : Int :=
  if i.unit ≤ i.value then ((digits (i.value / i.unit)).length : Int) - 1
  else -((digits ((i.unit - 1) / i.value)).length : Int)

/-- Whether `c` units of `10 ^ k` lie in the interval. -/
def contains (i : Interval) (c : Nat) (k : Int) : Bool :=
  let point := c * Nat.pow 10 k.toNat * i.unit
  let down := Nat.pow 10 (-k).toNat
  if i.closed then i.low * down ≤ point && point ≤ i.high * down
  else i.low * down < point && point < i.high * down

/-- The multiple of `10 ^ k` in the interval nearest to the value, if any. -/
def onGrid? (i : Interval) (k : Int) : Option Nat :=
  let step := Nat.pow 10 k.toNat * i.unit
  let value := i.value * Nat.pow 10 (-k).toNat
  let below := value / step
  match i.contains below k, i.contains (below + 1) k with
  | false, false => none
  | true, false => some below
  | false, true => some (below + 1)
  | true, true =>
    let twice := 2 * (value % step)
    if twice < step ∨ (twice = step ∧ below % 2 = 0) then some below else some (below + 1)

/-- The first hit on the grids of `n` digits and more, at most `more` grids. -/
def shortestFrom (i : Interval) (n : Nat) : Nat → Nat × Int
  | 0 => (0, 0)
  | more + 1 =>
    let k := i.magnitude - n + 1
    match i.onGrid? k with
    | some c => (c, k)
    | none => shortestFrom i (n + 1) more

/-- The decimal `c * 10 ^ k` with the fewest digits that rounds to the value.
    Seventeen digits are always enough. -/
def shortest (i : Interval) : Nat × Int := i.shortestFrom 1 17

end Interval

end Downlevel.Decimal
