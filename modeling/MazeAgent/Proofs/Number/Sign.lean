import MazeAgent.Proofs.Number.Order
import MazeAgent.Proofs.Number.Whole

/-!
# Signs of quotients

A number that is not less than zero may be a not-a-number or a negative zero. So the quotients of
such numbers cannot be told by their sign bits alone. They are either without a sign, or not a
number, or zero, and in no case are they less than zero.

**Results.**
* `Single.IsUnsigned`, `Single.isUnsigned_div`: the sign of a quotient before it is packed.
* `Single.isNegative_div`: a quotient of patterns without a sign bit.
* `Single.not_lt_zero_iff`: the patterns that are not less than zero.
* `Single.not_div_lt_zero`: no such pattern is divided into something less than zero.
-/

namespace MazeAgent
namespace Single

open Float.Model Float.Model.UnpackedFloat

variable {x y : Single} {value other : UnpackedFloat}

/-! ## Unpacked numbers -/

/-- A not-a-number, or a number with a positive sign. -/
def IsUnsigned : UnpackedFloat → Prop
  | .notANumber => True
  | .infinity sign => sign = .positive
  | .zero sign => sign = .positive
  | .finite sign _ _ _ => sign = .positive

theorem unpackSign_pack (h : IsUnsigned value) :
    unpackSign (UnpackedFloat.pack Format.binary32 value) = 0#1 := by
  cases value with
  | notANumber => rfl
  | infinity sign =>
      obtain rfl : sign = .positive := h
      rfl
  | zero sign =>
      obtain rfl : sign = .positive := h
      rfl
  | finite sign mantissa exponent hpos =>
      obtain rfl : sign = .positive := h
      simp only [UnpackedFloat.pack]
      split
      · rfl
      · split <;> exact unpackSign_packComponents _ _ _

theorem isUnsigned_unpack {bits : BitVec 32} (h : @unpackSign Format.binary32 bits = 0#1) :
    IsUnsigned (UnpackedFloat.unpack Format.binary32 bits) := by
  have hsign : Sign.ofBitVec (@unpackSign Format.binary32 bits) = .positive := by
    rw [h]
    rfl
  unfold UnpackedFloat.unpack
  dsimp only
  split
  · split
    · exact hsign
    · trivial
  · split
    · split <;> exact hsign
    · exact hsign

theorem isUnsigned_roundWithAccuracy (mantissa : Nat) (exponent : Int) (accuracy : Accuracy) :
    IsUnsigned (roundWithAccuracy Format.binary32 .positive mantissa exponent accuracy) := by
  unfold roundWithAccuracy
  dsimp only
  split <;> rfl

theorem isUnsigned_div (hvalue : IsUnsigned value) (hother : IsUnsigned other) :
    IsUnsigned (UnpackedFloat.div Format.binary32 value other) := by
  cases value with
  | notANumber => trivial
  | infinity sign =>
      obtain rfl : sign = .positive := hvalue
      cases other with
      | notANumber => trivial
      | infinity => trivial
      | zero | finite =>
          cases hother
          rfl
  | zero sign =>
      obtain rfl : sign = .positive := hvalue
      cases other with
      | notANumber => trivial
      | zero => trivial
      | infinity | finite =>
          cases hother
          rfl
  | finite sign mantissa exponent hpos =>
      obtain rfl : sign = .positive := hvalue
      cases other with
      | notANumber => trivial
      | infinity | zero =>
          cases hother
          rfl
      | finite =>
          cases hother
          exact isUnsigned_roundWithAccuracy _ _ _

/-! ## Patterns -/

theorem isNegative_eq_false_iff :
    x.isNegative = false ↔ @unpackSign Format.binary32 x.bits.toBitVec = 0#1 := by
  have hlt := x.bits.toNat_lt
  have hsign : (@unpackSign Format.binary32 x.bits.toBitVec).toNat =
      x.bits.toNat / 2 ^ 31 := by
    rw [unpackSign_def, BitVec.extractLsb'_toNat, Nat.shiftRight_eq_div_pow]
    exact Nat.mod_eq_of_lt (by change x.bits.toNat / 2 ^ 31 < 2; omega)
  rw [← BitVec.toNat_inj, hsign, isNegative, decide_eq_false_iff_not, UInt32.le_iff_toNat_le]
  change ¬ 2147483648 ≤ x.bits.toNat ↔ x.bits.toNat / 2147483648 = 0
  omega

theorem isUnsigned_toFloat32 (h : x.isNegative = false) :
    IsUnsigned x.toFloat32.toModel.unpack := by
  have hbits := isUnsigned_unpack (isNegative_eq_false_iff.mp h)
  exact isUnsigned_unpack (unpackSign_pack hbits)

theorem isNaN_or_isNegative_settle (h : IsUnsigned value) :
    (settle ⟨Float32.Model.pack value⟩).isNaN = true ∨
      (settle ⟨Float32.Model.pack value⟩).isNegative = false := by
  unfold settle
  split
  · exact Or.inl (by decide)
  · exact Or.inr (isNegative_eq_false_iff.mpr (unpackSign_pack h))

theorem isNaN_quiet (h : x.isNaN = true) : x.quiet.isNaN = true := by
  have hle : x.magnitude ≤ x.quiet.magnitude := by
    unfold magnitude quiet
    simp only [UInt32.toNat_and, UInt32.toNat_or]
    rw [Nat.and_or_distrib_right]
    exact Nat.left_le_or
  simp only [isNaN, decide_eq_true_eq] at h ⊢
  omega

theorem div_eq (hx : x.isNaN = false) (hy : y.isNaN = false) :
    x / y = settle ⟨Float32.Model.pack (UnpackedFloat.div Format.binary32
      x.toFloat32.toModel.unpack y.toFloat32.toModel.unpack)⟩ :=
  lift_eq (· / ·) hx hy

/-- A quotient with a not-a-number is one. -/
theorem isNaN_div (h : x.isNaN = true ∨ y.isNaN = true) : (x / y).isNaN = true := by
  change (lift (· / ·) x y).isNaN = true
  unfold lift
  split
  · next hx => exact isNaN_quiet hx
  · next hx =>
    have hy := h.resolve_left hx
    rw [if_pos hy]
    exact isNaN_quiet hy

/-- The quotient of two numbers without a sign has none, if it is a number. -/
theorem isNegative_div (hx : x.isNegative = false) (hy : y.isNegative = false) :
    (x / y).isNaN = true ∨ (x / y).isNegative = false := by
  by_cases hnan : x.isNaN = true ∨ y.isNaN = true
  · exact Or.inl (isNaN_div hnan)
  · obtain ⟨hxnan, hynan⟩ := not_or.mp hnan
    rw [div_eq (by simpa using hxnan) (by simpa using hynan)]
    exact isNaN_or_isNegative_settle
      (isUnsigned_div (isUnsigned_toFloat32 hx) (isUnsigned_toFloat32 hy))

theorem div_zero_cases (sign : Sign) (other : UnpackedFloat) :
    UnpackedFloat.div Format.binary32 (.zero sign) other = .notANumber ∨
      ∃ sign', UnpackedFloat.div Format.binary32 (.zero sign) other = .zero sign' := by
  cases other with
  | notANumber | zero => exact Or.inl rfl
  | infinity sign' | finite sign' => exact Or.inr ⟨sign / sign', rfl⟩

/-- Zero divided by a positive number is zero. -/
theorem Counts.zero_div {units : Nat} (h : y.Counts units) : 0 / y = 0 := by
  obtain ⟨scale, mantissa, hnormal, rfl, -⟩ := h
  have hzero : (0 : Single).toFloat32.toModel.unpack = .zero .positive := by rfl
  have hdiv : UnpackedFloat.div Format.binary32 (.zero .positive) hnormal.value =
    .zero .positive := rfl
  rw [div_eq isNaN_zero (isNaN_normal hnormal), hzero, unpack_toFloat32 hnormal, hdiv]
  decide +kernel

/-- Negative zero is divided into zeros. -/
theorem negZero_div (y : Single) : (negZero / y).isNaN = true ∨ (negZero / y).isZero = true := by
  by_cases hy : y.isNaN = true
  · exact Or.inl (isNaN_div (Or.inr hy))
  · have hzero : negZero.toFloat32.toModel.unpack = .zero .negative := by rfl
    rw [div_eq (by decide) (by simpa using hy), hzero]
    rcases div_zero_cases .negative y.toFloat32.toModel.unpack with hdiv | ⟨sign, hdiv⟩
    · rw [hdiv]
      exact Or.inl (by decide)
    · rw [hdiv]
      exact Or.inr (by cases sign <;> decide)

/-! ## Numbers that are not less than zero -/

theorem zero_lt_ofNat {n : Nat} (hpos : 0 < n) (hlt : n < 2 ^ 24) : 0 < ofNat n :=
  (isProper_zero.place_lt_iff (isWithin_ofNat hlt).isProper).mp (place_ofNat_lt hpos hlt)

theorem not_ofNat_lt_zero {n : Nat} (hlt : n < 2 ^ 24) : ¬ ofNat n < 0 := by
  rcases Nat.eq_zero_or_pos n with rfl | hpos
  · exact lt_irrefl 0
  · have hless := zero_lt_ofNat hpos hlt
    exact (not_lt_iff (isWithin_ofNat hlt).isProper.1 isNaN_zero).mpr (le_of_lt hless)

/-- What is not less than zero is not a number, has no sign, or is negative zero. -/
theorem not_lt_zero_iff :
    ¬ x < 0 ↔ x.isNaN = true ∨ x.isNegative = false ∨ x = negZero := by
  have hnegZero : negZero.signedMagnitude = 0 := by decide
  rw [lt_iff, isNaN_zero, signedMagnitude_zero]
  constructor
  · intro h
    cases hnan : x.isNaN with
    | true => exact Or.inl rfl
    | false =>
        have hle : 0 ≤ x.signedMagnitude := by
          by_contra hlt
          exact h ⟨hnan, rfl, by omega⟩
        cases hsign : x.isNegative with
        | false => exact Or.inr (Or.inl rfl)
        | true =>
            refine Or.inr (Or.inr (place_injective ?_))
            rw [signedMagnitude, if_pos hsign] at hle
            have hplace : negZero.place = -1 := by decide
            rw [place, if_pos hsign, hplace]
            omega
  · rintro (hnan | hsign | rfl) ⟨hnumber, -, hlt⟩
    · rw [hnan] at hnumber
      cases hnumber
    · rw [signedMagnitude, hsign, if_neg Bool.false_ne_true] at hlt
      omega
    · rw [hnegZero] at hlt
      omega

theorem isNegative_of_zero_lt (h : 0 < x) : x.isNegative = false := by
  have hlt := (lt_iff.mp h).2.2
  rw [signedMagnitude_zero, signedMagnitude] at hlt
  by_contra hsign
  rw [if_pos (by simpa using hsign)] at hlt
  omega

theorem not_lt_zero_of_isZero (h : x.isZero = true) : ¬ x < 0 := by
  rcases eq_zero_of_isZero h with rfl | rfl
  · exact lt_irrefl 0
  · exact not_lt_zero_iff.mpr (Or.inr (Or.inr rfl))

/-- Dividing what is not less than zero by a positive number gives nothing less than zero. -/
theorem not_div_lt_zero (hx : ¬ x < 0) (hy : 0 < y) : ¬ x / y < 0 := by
  rcases not_lt_zero_iff.mp hx with hnan | hsign | rfl
  · exact not_lt_zero_iff.mpr (Or.inl (isNaN_div (Or.inl hnan)))
  · rw [not_lt_zero_iff, ← or_assoc]
    exact Or.inl (isNegative_div hsign (isNegative_of_zero_lt hy))
  · rcases negZero_div y with hnan | hzero
    · exact not_lt_zero_iff.mpr (Or.inl hnan)
    · exact not_lt_zero_of_isZero hzero

end Single
end MazeAgent
