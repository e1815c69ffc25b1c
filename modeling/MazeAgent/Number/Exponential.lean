import MazeAgent.Number.Single

/-!
# The exponential of a binary32 number

The exponential is summed in fixed point with many guard bits and rounded once, so the result
is the binary32 number nearest to the real exponential.

**Results.**
* `Single.exp`: the rounded exponential.
-/

namespace MazeAgent
namespace Single

/-- Fraction bits of the fixed-point sum. -/
def guardBits : Nat := 256

/-- The partial sums of the exponential series of `r / 2 ^ guardBits` in fixed point:
`count` further terms, the next one being `term`, the `index`-th of the series. -/
def exponentialSeries (r : Nat) : (count index term total : Nat) → Nat
  | 0, _, _, total => total
  | count + 1, index, term, total =>
      let next := (term * r) / ((index + 1) <<< guardBits)
      exponentialSeries r count (index + 1) next (total + term)

/-- `count`-fold squaring in fixed point. -/
def squareTimes : (count value : Nat) → Nat
  | 0, value => value
  | count + 1, value => squareTimes count ((value * value) >>> guardBits)

/-- The exponential of `r / 2 ^ guardBits`, in fixed point, for arguments up to `128`. -/
def fixedExponential (r : Nat) : Nat :=
  squareTimes 8 (exponentialSeries (r >>> 8) 64 0 (1 <<< guardBits) 0)

/-- The magnitude of a finite pattern in units of `2 ^ (-149)`. -/
def units (x : Single) : Nat :=
  let exponent := x.magnitude >>> 23
  let fraction := x.magnitude % 0x800000
  if exponent = 0 then fraction else (fraction + 0x800000) <<< (exponent - 1)

/-- The exponential, rounded to the nearest binary32 number. -/
def exp (x : Single) : Single :=
  if x.isNaN then
    x.quiet
  else if x.lt (-104) then
    0
  else if (89 : Single).lt x then
    infinity
  else
    let argument := (x.units <<< guardBits) >>> 149
    let result := fixedExponential argument
    if x.isNegative then
      ofRatio (1 <<< guardBits) result
    else
      ofRatio result (1 <<< guardBits)

end Single
end MazeAgent
