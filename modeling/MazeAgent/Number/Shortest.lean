import MazeAgent.Number.Exponential
import MazeAgent.Number.Numeral

/-!
# The shortest decimal of a binary32 number

Among the decimals that read back as a given number, the one with the fewest digits is taken,
and the nearest to the number where there are several.

**Results.**
* `Shortest.ofSingle`: the shortest numeral of a number.
* `Numeral.positional`: a numeral with a decimal point and without an exponent.
-/

namespace MazeAgent

namespace Shortest

/-- The interval of the real numbers that round to a positive binary32 number, in units of
`2 ^ (-151)`: the number itself, its two ends, and whether the ends belong to it. -/
structure Interval where
  low : Nat
  value : Nat
  high : Nat
  closed : Bool

def Interval.ofSingle (x : Single) : Interval :=
  let exponent := x.magnitude >>> 23
  let fraction := x.magnitude % 0x800000
  let ulp := 1 <<< (exponent - 1)
  let value := 4 * x.units
  { low := if fraction = 0 ∧ 1 < exponent then value - ulp else value - 2 * ulp
    value := value
    high := value + 2 * ulp
    closed := fraction % 2 == 0 }

/-- Whether the point `n * 10 ^ exponent` lies in the interval. -/
def Interval.holds (interval : Interval) (n numerator denominator : Nat) : Bool :=
  let point := n * numerator
  if interval.closed then
    interval.low * denominator ≤ point && point ≤ interval.high * denominator
  else
    interval.low * denominator < point && point < interval.high * denominator

/-- The point of the grid `10 ^ exponent` in the interval that is nearest to its number. -/
def Interval.point? (interval : Interval) (exponent : Int) : Option Nat :=
  let numerator := if 0 ≤ exponent then Nat.pow 10 exponent.natAbs <<< 151 else 1 <<< 151
  let denominator := if 0 ≤ exponent then 1 else Nat.pow 10 exponent.natAbs
  let target := interval.value * denominator
  let below := target / numerator
  let lower := below != 0 && interval.holds below numerator denominator
  let upper := interval.holds (below + 1) numerator denominator
  if upper && (!lower || (2 * below + 1) * numerator ≤ 2 * target) then
    some (below + 1)
  else if lower then
    some below
  else
    none

/-- The coarsest grid from `10 ^ exponent` down that has a point in the interval. -/
def search (interval : Interval) : (count : Nat) → (exponent : Int) → Nat × Int
  | 0, exponent => (0, exponent)
  | count + 1, exponent =>
      match interval.point? exponent with
      | some digits => (digits, exponent)
      | none => search interval count (exponent - 1)

/-- The shortest numeral that reads back as the number. -/
def ofSingle (x : Single) : Numeral :=
  if x.isNaN then
    .notANumber x.isNegative
  else if x.isInfinite then
    .infinity x.isNegative
  else if x.isZero then
    .decimal x.isNegative 0 0
  else
    let (digits, exponent) := search (Interval.ofSingle x.abs) 90 39
    .decimal x.isNegative digits exponent

end Shortest

namespace Numeral

/-- A decimal with a point, at least one digit on each side of it, and no exponent. -/
def positional (digits : Nat) (exponent : Int) : List Char :=
  let shown := Nat.toDigits 10 digits
  if 0 ≤ exponent then
    shown ++ List.replicate exponent.natAbs '0' ++ ['.', '0']
  else
    let places := exponent.natAbs
    let padded := List.replicate (places + 1 - shown.length) '0' ++ shown
    padded.take (padded.length - places) ++ '.' :: padded.drop (padded.length - places)

end Numeral
end MazeAgent
