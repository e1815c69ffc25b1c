import MazeAgent.Number.Single

/-!
# Numerals of documents

A numeral is what a text says: decimal digits with a power of ten, an infinity, or no number.
It becomes a binary32 number through binary64, rounding to nearest at both steps.

**Results.**
* `Numeral.toSingle`: the binary32 number of a numeral.
-/

namespace MazeAgent

/-- A numeral with a sign. -/
inductive Numeral where
  /-- The number `digits * 10 ^ exponent`. -/
  | decimal (negative : Bool) (digits : Nat) (exponent : Int)
  | infinity (negative : Bool)
  | notANumber (negative : Bool)
  deriving DecidableEq, Repr, Inhabited

namespace Numeral

/-- The number of decimal digits of a natural number, none for zero. -/
def digitCount (n : Nat) : Nat :=
  if n = 0 then 0 else (Nat.toDigits 10 n).length

/-- The binary64 number nearest to `digits * 10 ^ exponent`. -/
def magnitude (digits : Nat) (exponent : Int) : Float :=
  let top := exponent + digitCount digits
  if digits = 0 ∨ top < -400 then
    0.0
  else if 400 < top then
    1.0 / 0.0
  else if 0 ≤ exponent then
    Float.ofScientific digits false exponent.natAbs
  else
    Float.ofScientific digits true exponent.natAbs

/-- Whether a decimal numeral is too large for binary64. -/
def overflows : Numeral → Bool
  | decimal _ digits exponent => (magnitude digits exponent).isInf
  | _ => false

/-- The number with the sign given by a flag. -/
def signed (negative : Bool) (x : Single) : Single :=
  if negative then -x else x

def toSingle : Numeral → Single
  | decimal negative digits exponent =>
      signed negative (Single.ofFloat32 (magnitude digits exponent).toFloat32)
  | infinity negative => signed negative Single.infinity
  | notANumber negative => signed negative Single.nan

end Numeral
end MazeAgent
