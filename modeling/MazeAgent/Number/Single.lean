/-!
# Binary32 numbers

A `Single` is the 32-bit pattern of a number: sign, eight exponent bits, 23 fraction bits.
Keeping the pattern, and not only the value, lets both zeros and every not-a-number have their
own place in the total order.

**Results.**
* `Single.place`: the position of a pattern in the total order; `Single.place_injective` shows
  that different patterns have different positions.
* `Single.lt`, `Single.le`, `Single.numEq`: comparison of the numbers denoted, false for
  not-a-number and blind to the sign of zero.
* the arithmetic operations, rounding to nearest with ties to even: a not-a-number operand is
  passed on, the left one first, and an operation without a value gives `Single.invalid`.
-/

namespace MazeAgent

/-- A number in binary32 format, by its bits. -/
structure Single where
  bits : UInt32
  deriving DecidableEq, Hashable, Inhabited, Repr

namespace Single

def magnitude (x : Single) : Nat :=
  (x.bits &&& 0x7fffffff).toNat

def isNegative (x : Single) : Bool :=
  0x80000000 ≤ x.bits

def isNaN (x : Single) : Bool :=
  0x7f800000 < x.magnitude

def isInfinite (x : Single) : Bool :=
  x.magnitude == 0x7f800000

/-- Whether the pattern denotes a zero of either sign. -/
def isZero (x : Single) : Bool :=
  x.magnitude == 0

/-! ## Orders -/

/-- The magnitude with the sign of the number, so that both zeros are `0`. -/
def signedMagnitude (x : Single) : Int :=
  if x.isNegative then -(x.magnitude : Int) else x.magnitude

/-- The position of the pattern in the total order on patterns. -/
def place (x : Single) : Int :=
  if x.isNegative then -(x.magnitude : Int) - 1 else x.magnitude

/-- Comparison in the total order on patterns. -/
def totalCompare (x y : Single) : Ordering :=
  compare x.place y.place

/-- Whether `x` is less than `y` as a number. -/
def lt (x y : Single) : Bool :=
  !x.isNaN && !y.isNaN && x.signedMagnitude < y.signedMagnitude

/-- Whether `x` is at most `y` as a number. -/
def le (x y : Single) : Bool :=
  !x.isNaN && !y.isNaN && x.signedMagnitude ≤ y.signedMagnitude

/-- Whether `x` and `y` denote the same number. -/
def numEq (x y : Single) : Bool :=
  !x.isNaN && !y.isNaN && x.signedMagnitude == y.signedMagnitude

instance : LT Single where
  lt x y := x.lt y = true

instance : LE Single where
  le x y := x.le y = true

instance : DecidableLT Single := fun x y => inferInstanceAs (Decidable (x.lt y = true))

instance : DecidableLE Single := fun x y => inferInstanceAs (Decidable (x.le y = true))

/-! ## Particular numbers -/

/-- What an operation without a value gives. -/
def invalid : Single := ⟨0xffc00000⟩

def nan : Single := ⟨0x7fc00000⟩

/-- Positive infinity. -/
def infinity : Single := ⟨0x7f800000⟩

/-- Negative infinity. -/
def negInfinity : Single := ⟨0xff800000⟩

/-- Zero with a set sign bit. -/
def negZero : Single := ⟨0x80000000⟩

/-- The distance from one to the next larger number. -/
def epsilon : Single := ⟨0x34000000⟩

/-! ## Conversion -/

def ofFloat32 (x : Float32) : Single := ⟨x.toBits⟩

/-- The machine number of a pattern; the patterns without a value become one. -/
def toFloat32 (x : Single) : Float32 := Float32.ofBits x.bits

/-- The number nearest to a 32-bit natural number. -/
def ofUInt32 (n : UInt32) : Single := ofFloat32 n.toFloat32

/-- The number nearest to a 64-bit natural number. -/
def ofUInt64 (n : UInt64) : Single := ofFloat32 n.toFloat32

/-- The number nearest to a natural number below `2 ^ 64`. -/
def ofNat (n : Nat) : Single := ofUInt64 n.toUInt64

/-- The number nearest to an integer of magnitude below `2 ^ 64`. -/
def ofInt (n : Int) : Single :=
  if n < 0 then ⟨(ofNat n.natAbs).bits ^^^ 0x80000000⟩ else ofNat n.natAbs

instance (n : Nat) : OfNat Single n where
  ofNat := ofNat n

instance : OfScientific Single where
  ofScientific mantissa negativeExponent exponent :=
    ofFloat32 (Float32.ofScientific mantissa negativeExponent exponent)

/-- The number cut to a whole number from `0` to `255`. -/
def toByte (x : Single) : UInt8 := x.toFloat32.toUInt8

/-- The positive quotient `num / den` rounded to nearest, ties to even. -/
def ofRatio (num den : Nat) : Single :=
  let scale : Int := (num.log2 : Int) - den.log2
  let shape (exponent : Int) : Nat × Nat :=
    if exponent < 0 then (num <<< exponent.natAbs, den) else (num, den <<< exponent.natAbs)
  let fits (exponent : Int) : Bool :=
    let (n, d) := shape exponent
    n / d < 0x1000000
  let exponent := max (-149) (if fits (scale - 24) then scale - 24 else scale - 23)
  let (n, d) := shape exponent
  let quotient := n / d
  let rest := 2 * (n % d)
  let rounded :=
    if d < rest || (rest == d && quotient % 2 == 1) then quotient + 1 else quotient
  let pattern := (exponent + 149).toNat * 0x800000 + rounded
  if 0x7f800000 ≤ pattern then infinity else ⟨pattern.toUInt32⟩

/-! ## Arithmetic -/

def quiet (x : Single) : Single := ⟨x.bits ||| 0x00400000⟩

/-- A machine result with the invalid pattern in place of an undefined value. -/
def settle (x : Float32) : Single :=
  if x.isNaN then invalid else ofFloat32 x

/-- An operation of two operands on patterns from the one on machine numbers. -/
def lift (op : Float32 → Float32 → Float32) (x y : Single) : Single :=
  if x.isNaN then
    x.quiet
  else if y.isNaN then
    y.quiet
  else
    settle (op x.toFloat32 y.toFloat32)

instance : Add Single where
  add := lift (· + ·)

instance : Sub Single where
  sub := lift (· - ·)

instance : Mul Single where
  mul := lift (· * ·)

instance : Div Single where
  div := lift (· / ·)

/-- The number with the other sign. -/
instance : Neg Single where
  neg x := ⟨x.bits ^^^ 0x80000000⟩

def abs (x : Single) : Single := ⟨x.bits &&& 0x7fffffff⟩

def sqrt (x : Single) : Single :=
  if x.isNaN then x.quiet else settle x.toFloat32.sqrt

/-- The larger of two numbers; a number wins over a not-a-number. -/
def max (x y : Single) : Single :=
  if x.isNaN then y else if y.lt x then x else if y.isNaN then x else y

/-- The smaller of two numbers; a number wins over a not-a-number. -/
def min (x y : Single) : Single :=
  if x.isNaN then y else if y.isNaN then x else if y.lt x then y else x

/-- The sum from left to right; an empty sum is the zero that changes no other number. -/
def sum (xs : List Single) : Single :=
  xs.foldl (· + ·) negZero

/-! ## The total order tells patterns apart -/

theorem magnitude_lt (x : Single) : x.magnitude < 0x80000000 := by
  unfold magnitude
  have h := UInt32.toNat_and x.bits 0x7fffffff
  rw [h]
  have : x.bits.toNat &&& (0x7fffffff : UInt32).toNat ≤ (0x7fffffff : UInt32).toNat :=
    Nat.and_le_right
  have e : (0x7fffffff : UInt32).toNat = 0x7fffffff := by decide
  omega

theorem toNat_bits (x : Single) :
    x.bits.toNat = (if x.isNegative then 0x80000000 else 0) + x.magnitude := by
  have hm : x.magnitude = x.bits.toNat % 0x80000000 := by
    unfold magnitude
    rw [UInt32.toNat_and]
    exact Nat.and_two_pow_sub_one_eq_mod x.bits.toNat 31
  have hlt := x.bits.toNat_lt
  unfold isNegative
  have hn : (decide (0x80000000 ≤ x.bits)) = decide (0x80000000 ≤ x.bits.toNat) := by
    have : (0x80000000 ≤ x.bits) ↔ 0x80000000 ≤ x.bits.toNat := by
      rw [UInt32.le_iff_toNat_le]
      exact Iff.rfl
    exact decide_eq_decide.mpr this
  rw [hn, hm]
  by_cases h : 0x80000000 ≤ x.bits.toNat
  · simp only [h, decide_true, if_true]
    omega
  · simp only [h, decide_false, Bool.false_eq_true, if_false]
    omega

/-- Different patterns have different places in the total order. -/
theorem place_injective {x y : Single} (h : x.place = y.place) : x = y := by
  have hx := toNat_bits x
  have hy := toNat_bits y
  have : x.bits.toNat = y.bits.toNat := by
    unfold place at h
    cases hn : x.isNegative <;> cases hm : y.isNegative <;> simp [hn, hm] at h hx hy <;> omega
  cases x
  cases y
  simpa [UInt32.toNat_inj] using this

end Single
end MazeAgent
