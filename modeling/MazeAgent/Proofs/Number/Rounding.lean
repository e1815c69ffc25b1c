import MazeAgent.Proofs.Number.Normal

/-!
# Rounding positive numbers

Numbers are counted in units, of which one has `2 ^ 23`, so that the numbers from one on have
whole counts. A sum or a root is found with more digits than fit and then rounded. What matters
about rounding is that it respects every grid coarse enough to be kept: a bound on the exact result
that lies on such a grid is a bound on the rounded one too.

**Results.**
* `Single.exists_round`: a rounded number is normal and respects the grids (`Single.Rounds`).
* `Single.Counts.place_le_iff`: the order of the places is the order of the counts.
* `Single.Counts.add`, `Single.Counts.sqrt`: the counts of sums and of roots.
* `Single.counts_ofNat`, `Single.exists_counts_ofNat`: the counts of natural numbers.
-/

namespace MazeAgent
namespace Single

open Float.Model Float.Model.UnpackedFloat

/-! ## Shifting digits out -/

theorem mantissa_shiftRight (digits : ExtendedMantissa) (count : Nat) :
    (digits >>> count).mantissa = digits.mantissa / 2 ^ count := by
  induction count with
  | zero => exact (Nat.div_one _).symm
  | succ count ih =>
      change (digits >>> count).mantissa / 2 = _
      rw [ih, Nat.div_div_eq_div_mul, Nat.pow_succ]

theorem roundedMantissa_bounds (digits : ExtendedMantissa) :
    digits.mantissa ≤ digits.roundedMantissa ∧
      digits.roundedMantissa ≤ digits.mantissa + 1 := by
  obtain ⟨mantissa, round, sticky⟩ := digits
  cases round <;> cases sticky <;>
    simp only [ExtendedMantissa.roundedMantissa, ExtendedMantissa.accuracy,
      Accuracy.roundToNearestEven] <;>
    omega

/-- Zeros at the end are shifted out without a trace. -/
theorem shiftRight_mul_two_pow (mantissa count : Nat) :
    (⟨mantissa * 2 ^ count, false, false⟩ : ExtendedMantissa) >>> count =
      ⟨mantissa, false, false⟩ := by
  induction count generalizing mantissa with
  | zero => simp [HShiftRight.hShiftRight, Nat.repeat]
  | succ count ih =>
      change ExtendedMantissa.shiftRightOne
        ((⟨mantissa * 2 ^ (count + 1), false, false⟩ : ExtendedMantissa) >>> count) = _
      rw [Nat.pow_succ', ← Nat.mul_assoc, ih]
      simp [ExtendedMantissa.shiftRightOne]

theorem mantissa_ofMantissaAndAccuracy (mantissa : Nat) (accuracy : Accuracy) :
    (ExtendedMantissa.ofMantissaAndAccuracy mantissa accuracy).mantissa = mantissa := by
  rcases accuracy with _ | order
  · rfl
  · cases order <;> rfl

section Round

variable {scale mantissa shift high : Nat}

theorem bounds_of_log2 {n k : Nat} (hpos : 0 < k) (hlog : n.log2 = k) :
    2 ^ k ≤ n ∧ n < 2 ^ (k + 1) := by
  have hne : n ≠ 0 := by
    rintro rfl
    rw [Nat.log2_zero] at hlog
    omega
  exact (Nat.log2_eq_iff hne).mp hlog

/-- As many digits are shifted out as there are too many. -/
theorem shiftToTargetExponent_eq (hlog : mantissa.log2 = 23 + shift) (accuracy : Accuracy) :
    shiftToTargetExponent Format.binary32 mantissa ((scale : Int) - 23) accuracy =
      (ExtendedMantissa.ofMantissaAndAccuracy mantissa accuracy >>> shift,
        ((scale + shift : Nat) : Int) - 23) := by
  have hmin : Format.minExponent Format.binary32 = -149 := rfl
  have hbits : Format.mantissaBits Format.binary32 = 24 := rfl
  have htarget : Format.targetExponent Format.binary32
      (totalExponent mantissa ((scale : Int) - 23)) = ((scale + shift : Nat) : Int) - 23 := by
    unfold Format.targetExponent totalExponent
    rw [hmin, hbits, hlog]
    omega
  have hshift : (((scale + shift : Nat) : Int) - 23 - ((scale : Int) - 23)).toNat = shift := by
    omega
  simp only [shiftToTargetExponent, shiftToExponent, htarget, hshift, Prod.mk.injEq, true_and]
  omega

/-- A number is rounded to the digits that are left after the shift, or to the next number. -/
theorem roundWithAccuracy_eq (hlog : mantissa.log2 = 23 + shift) (hscale : scale + shift < 100)
    (accuracy : Accuracy) :
    ∃ (scale' mantissa' : Nat) (h : IsNormal scale' mantissa'),
      roundWithAccuracy Format.binary32 .positive mantissa ((scale : Int) - 23) accuracy =
        h.value ∧
      mantissa' * 2 ^ scale' =
        (ExtendedMantissa.ofMantissaAndAccuracy mantissa accuracy >>> shift).roundedMantissa *
          2 ^ (scale + shift) := by
  generalize hdigits : ExtendedMantissa.ofMantissaAndAccuracy mantissa accuracy >>> shift = digits
  have hmantissa : digits.mantissa = mantissa / 2 ^ shift := by
    rw [← hdigits, mantissa_shiftRight, mantissa_ofMantissaAndAccuracy]
  obtain ⟨hlow, hhigh⟩ := bounds_of_log2 (by omega) hlog
  have hlow' : 2 ^ 23 ≤ digits.mantissa := by
    rw [hmantissa, Nat.le_div_iff_mul_le (Nat.two_pow_pos shift), ← Nat.pow_add]
    exact hlow
  have hhigh' : digits.mantissa < 2 ^ 24 := by
    rw [Nat.add_right_comm] at hhigh
    rw [hmantissa, Nat.div_lt_iff_lt_mul (Nat.two_pow_pos shift), ← Nat.pow_add]
    exact hhigh
  obtain ⟨hle, hge⟩ := roundedMantissa_bounds digits
  simp only [roundWithAccuracy, shiftToTargetExponent_eq hlog, hdigits]
  by_cases hcarry : digits.roundedMantissa = 2 ^ 24
  · -- Rounding up has made one digit too many, which is a zero.
    have hnormal : IsNormal (scale + shift + 1) (2 ^ 23) := ⟨by omega, le_rfl, by omega⟩
    have hround : (2 ^ 24 : Nat).log2 = 23 + 1 := Nat.log2_two_pow
    have hshift : (⟨2 ^ 24, false, false⟩ : ExtendedMantissa) >>> 1 = ⟨2 ^ 23, false, false⟩ :=
      shiftRight_mul_two_pow (2 ^ 23) 1
    refine ⟨scale + shift + 1, 2 ^ 23, hnormal, ?_, ?_⟩
    · simp only [hcarry, shiftToTargetExponent_eq hround,
        ExtendedMantissa.ofMantissaAndAccuracy, hshift]
      exact dif_neg hnormal.pos.ne'
    · rw [hcarry, pow_succ 2 (scale + shift)]
      ring
  · have hnormal : IsNormal (scale + shift) digits.roundedMantissa :=
      ⟨by omega, by omega, by omega⟩
    have hround : digits.roundedMantissa.log2 = 23 + 0 := hnormal.log2_eq
    refine ⟨scale + shift, digits.roundedMantissa, hnormal, ?_, rfl⟩
    simp only [shiftToTargetExponent_eq hround, ExtendedMantissa.ofMantissaAndAccuracy]
    exact dif_neg hnormal.pos.ne'

/-! ## Grids -/

/-- A number found between two bounds is rounded. The points of a grid that is coarse enough
bound the rounded number, if they bound the number itself. -/
structure Rounds (low high units : Nat) : Prop where
  le : ∀ step count, low < 2 ^ (24 + step) →
    count * 2 ^ step ≤ low → count * 2 ^ step ≤ units
  ge : ∀ step count, low < 2 ^ (24 + step) →
    high ≤ count * 2 ^ step → units ≤ count * 2 ^ step

/-- The points of a coarser grid are points of the finer one. -/
theorem Rounds.of_step {low units : Nat} (step : Nat) (hstep : 2 ^ (23 + step) ≤ low)
    (hle : ∀ count, count * 2 ^ step ≤ low → count * 2 ^ step ≤ units)
    (hge : ∀ count, high ≤ count * 2 ^ step → units ≤ count * 2 ^ step) :
    Rounds low high units := by
  have hcoarse : ∀ coarse count, low < 2 ^ (24 + coarse) →
      count * 2 ^ coarse = count * 2 ^ (coarse - step) * 2 ^ step := by
    intro coarse count hlow
    have hlt := (Nat.pow_lt_pow_iff_right (by norm_num : 1 < 2)).mp (hstep.trans_lt hlow)
    rw [Nat.mul_assoc, ← Nat.pow_add, Nat.sub_add_cancel (by omega)]
  constructor
  · intro coarse count hlow h
    rw [hcoarse coarse count hlow] at h ⊢
    exact hle _ h
  · intro coarse count hlow h
    rw [hcoarse coarse count hlow] at h ⊢
    exact hge _ h

/-- A number on the grid stays what it is. -/
theorem Rounds.eq {units count step rounded : Nat} (h : Rounds units units rounded)
    (hunits : units = count * 2 ^ step) (hlt : units < 2 ^ (24 + step)) : rounded = units := by
  have hle := h.le step count hlt hunits.ge
  have hge := h.ge step count hlt hunits.le
  omega

/-- Rounding the digits that are left after a shift respects the grids. -/
theorem rounds_roundedMantissa (hlog : mantissa.log2 = 23 + shift) (accuracy : Accuracy)
    (hhigh : accuracy = .exact ∧ high = mantissa ∨ high = mantissa + 1) :
    Rounds (mantissa * 2 ^ scale) (high * 2 ^ scale)
      ((ExtendedMantissa.ofMantissaAndAccuracy mantissa accuracy >>> shift).roundedMantissa *
        2 ^ (scale + shift)) := by
  obtain ⟨hle, hge⟩ := roundedMantissa_bounds
    (ExtendedMantissa.ofMantissaAndAccuracy mantissa accuracy >>> shift)
  rw [mantissa_shiftRight, mantissa_ofMantissaAndAccuracy] at hle hge
  have hlow := (bounds_of_log2 (by omega) hlog).1
  have hsplit : ∀ count, count * 2 ^ (scale + shift) = count * 2 ^ shift * 2 ^ scale := by
    intro count
    rw [Nat.mul_assoc, ← Nat.pow_add, Nat.add_comm]
  apply Rounds.of_step (scale + shift)
  · rw [← Nat.add_assoc, Nat.add_right_comm, Nat.pow_add]
    exact Nat.mul_le_mul_right _ hlow
  · intro count hcount
    rw [hsplit] at hcount
    have hcount := Nat.le_of_mul_le_mul_right hcount (Nat.two_pow_pos scale)
    rw [← Nat.le_div_iff_mul_le (Nat.two_pow_pos shift)] at hcount
    exact Nat.mul_le_mul_right _ (hcount.trans hle)
  · intro count hcount
    rw [hsplit] at hcount
    have hcount := Nat.le_of_mul_le_mul_right hcount (Nat.two_pow_pos scale)
    apply Nat.mul_le_mul_right
    rcases Nat.lt_or_ge (mantissa / 2 ^ shift) count with hlt | hfloor
    · exact hge.trans hlt
    · -- Only zeros have been shifted out, so nothing is rounded up.
      have hmul := (Nat.le_div_iff_mul_le (Nat.two_pow_pos shift)).mp hfloor
      obtain ⟨rfl, rfl⟩ | rfl := hhigh
      · obtain rfl : high = count * 2 ^ shift := by omega
        change ((⟨count * 2 ^ shift, false, false⟩ : ExtendedMantissa) >>>
          shift).roundedMantissa ≤ _
        rw [shiftRight_mul_two_pow]
        exact le_rfl
      · omega

theorem exists_round (hlog : mantissa.log2 = 23 + shift) (hscale : scale + shift < 100)
    (accuracy : Accuracy) (hhigh : accuracy = .exact ∧ high = mantissa ∨ high = mantissa + 1) :
    ∃ (scale' mantissa' : Nat) (h : IsNormal scale' mantissa'),
      roundWithAccuracy Format.binary32 .positive mantissa ((scale : Int) - 23) accuracy =
        h.value ∧
      Rounds (mantissa * 2 ^ scale) (high * 2 ^ scale) (mantissa' * 2 ^ scale') := by
  obtain ⟨scale', mantissa', h, hround, hunits⟩ := roundWithAccuracy_eq hlog hscale accuracy
  refine ⟨scale', mantissa', h, hround, ?_⟩
  rw [hunits]
  exact rounds_roundedMantissa hlog accuracy hhigh

/-- A mantissa with digits enough is rounded as it is. -/
theorem round_eq (hlog : mantissa.log2 = 23 + shift) :
    UnpackedFloat.round Format.binary32 .positive mantissa ((scale : Int) - 23) =
      roundWithAccuracy Format.binary32 .positive mantissa ((scale : Int) - 23) .exact := by
  have hmin : Format.minExponent Format.binary32 = -149 := rfl
  have hbits : Format.mantissaBits Format.binary32 = 24 := rfl
  have hshift : ((scale : Int) - 23 - Format.targetExponent Format.binary32
      (totalExponent mantissa ((scale : Int) - 23))).toNat = 0 := by
    unfold Format.targetExponent totalExponent
    rw [hmin, hbits, hlog]
    omega
  unfold UnpackedFloat.round decreaseExponent
  dsimp only
  rw [hshift, Nat.shiftLeft_zero, Nat.cast_zero, Int.sub_zero]

/-- A mantissa with too few digits gets zeros behind it first. -/
theorem round_eq_of_zeros {zeros : Nat} (hzeros : mantissa.log2 + zeros = 23) :
    UnpackedFloat.round Format.binary32 .positive mantissa 0 =
      roundWithAccuracy Format.binary32 .positive (mantissa * 2 ^ zeros)
        ((mantissa.log2 : Int) - 23) .exact := by
  have hmin : Format.minExponent Format.binary32 = -149 := rfl
  have hbits : Format.mantissaBits Format.binary32 = 24 := rfl
  have hshift : (0 - Format.targetExponent Format.binary32
      (totalExponent mantissa 0)).toNat = zeros := by
    unfold Format.targetExponent totalExponent
    rw [hmin, hbits]
    omega
  have hexponent : (0 : Int) - zeros = (mantissa.log2 : Int) - 23 := by omega
  unfold UnpackedFloat.round decreaseExponent
  dsimp only
  rw [hshift, hexponent, Nat.shiftLeft_eq]

theorem normalize_eq (hpos : 0 < mantissa) (exponent : Int) :
    UnpackedFloat.normalize Format.binary32 mantissa exponent .positive =
      UnpackedFloat.round Format.binary32 .positive mantissa exponent := by
  have hcompare : compare (mantissa : Int) 0 = .gt := by
    rw [compare_gt_iff_gt]
    omega
  unfold UnpackedFloat.normalize
  rw [hcompare]
  rfl

end Round

/-! ## Counts -/

/-- The number is made of so many units, of which one has `2 ^ 23`. -/
def Counts (x : Single) (units : Nat) : Prop :=
  ∃ scale mantissa, IsNormal scale mantissa ∧ x = normal scale mantissa ∧
    units = mantissa * 2 ^ scale

section Counts

variable {x y : Single} {u v : Nat}

theorem IsNormal.mul_two_pow_lt {s t m n : Nat} (hm : IsNormal s m) (hn : IsNormal t n)
    (hlt : s < t) : m * 2 ^ s < n * 2 ^ t :=
  calc m * 2 ^ s < 2 ^ 24 * 2 ^ s := Nat.mul_lt_mul_of_pos_right hm.mantissa_lt (Nat.two_pow_pos s)
    _ = 2 ^ 23 * 2 ^ (s + 1) := by ring
    _ ≤ n * 2 ^ t := Nat.mul_le_mul hn.le_mantissa (Nat.pow_le_pow_right (by norm_num) hlt)

theorem Counts.place_le_iff (hx : x.Counts u) (hy : y.Counts v) : x.place ≤ y.place ↔ u ≤ v := by
  obtain ⟨s, m, hm, rfl, rfl⟩ := hx
  obtain ⟨t, n, hn, rfl, rfl⟩ := hy
  have hm₁ := hm.le_mantissa
  have hm₂ := hm.mantissa_lt
  have hn₁ := hn.le_mantissa
  have hn₂ := hn.mantissa_lt
  rw [place_normal hm, place_normal hn]
  rcases Nat.lt_trichotomy s t with hlt | rfl | hlt
  · have hunits := hm.mul_two_pow_lt hn hlt
    omega
  · rw [Nat.mul_le_mul_right_iff (Nat.two_pow_pos s)]
    omega
  · have hunits := hn.mul_two_pow_lt hm hlt
    omega

theorem Counts.place_lt_iff (hx : x.Counts u) (hy : y.Counts v) : x.place < y.place ↔ u < v := by
  rw [← not_le, hy.place_le_iff hx, not_le]

theorem Counts.unique (hx : x.Counts u) (hy : y.Counts u) : x = y :=
  place_injective (le_antisymm ((hx.place_le_iff hy).mpr le_rfl) ((hy.place_le_iff hx).mpr le_rfl))

theorem Counts.place_pos (h : x.Counts u) : 0 < x.place := by
  obtain ⟨s, m, hm, rfl, -⟩ := h
  rw [place_normal hm]
  omega

/-- The numbers that are counted start with one. -/
theorem Counts.le (h : x.Counts u) : 2 ^ 23 ≤ u := by
  obtain ⟨s, m, hm, -, rfl⟩ := h
  exact hm.le_mantissa.trans (Nat.le_mul_of_pos_right m (Nat.two_pow_pos s))

end Counts

/-! ## Sums -/

/-- An operation on two numbers is done by the machine. -/
theorem lift_eq (op : Float32 → Float32 → Float32) {x y : Single} (hx : x.isNaN = false)
    (hy : y.isNaN = false) : lift op x y = settle (op x.toFloat32 y.toFloat32) := by
  rw [lift, hx, hy, if_neg Bool.false_ne_true, if_neg Bool.false_ne_true]

theorem add_eq {x y : Single} (hx : x.isNaN = false) (hy : y.isNaN = false) :
    x + y = settle ⟨Float32.Model.pack (UnpackedFloat.add Format.binary32
      x.toFloat32.toModel.unpack y.toFloat32.toModel.unpack)⟩ :=
  lift_eq (· + ·) hx hy

/-- Two numbers are added on the smaller one of their scales. -/
theorem add_normal {s t m n scale : Nat} (hm : IsNormal s m) (hn : IsNormal t n)
    (hscale : Min.min s t = scale) :
    normal s m + normal t n = settle ⟨Float32.Model.pack (UnpackedFloat.round Format.binary32
      .positive (m * 2 ^ (s - scale) + n * 2 ^ (t - scale)) ((scale : Int) - 23))⟩ := by
  have hmin : Min.min ((s : Int) - 23) ((t : Int) - 23) = (scale : Int) - 23 := by omega
  have hs : ((s : Int) - 23 - ((scale : Int) - 23)).toNat = s - scale := by omega
  have ht : ((t : Int) - 23 - ((scale : Int) - 23)).toNat = t - scale := by omega
  have hpos : 0 < m * 2 ^ (s - scale) + n * 2 ^ (t - scale) :=
    Nat.add_pos_left (Nat.mul_pos hm.pos (Nat.two_pow_pos _)) _
  rw [add_eq (isNaN_normal hm) (isNaN_normal hn), unpack_toFloat32 hm, unpack_toFloat32 hn,
    ← normalize_eq hpos]
  simp only [UnpackedFloat.add, decreaseExponent, Sign.apply, hmin, hs, ht, Nat.shiftLeft_eq,
    Nat.cast_add]

theorem log2_add_lt {n scale bound : Nat} (hn : n ≠ 0) (h : n * 2 ^ scale < 2 ^ bound) :
    n.log2 + scale < bound := by
  apply (Nat.pow_lt_pow_iff_right (by norm_num : 1 < 2)).mp
  rw [Nat.pow_add]
  exact (Nat.mul_le_mul_right _ (Nat.log2_self_le hn)).trans_lt h

/-- The counts are added and rounded. -/
theorem Counts.add {x y : Single} {u v : Nat} (hx : x.Counts u) (hy : y.Counts v)
    (hsum : u + v < 2 ^ 48) : ∃ w, (x + y).Counts w ∧ Rounds (u + v) (u + v) w := by
  obtain ⟨s, m, hm, rfl, rfl⟩ := hx
  obtain ⟨t, n, hn, rfl, rfl⟩ := hy
  obtain ⟨z, hz⟩ : ∃ z, Min.min s t = z := ⟨_, rfl⟩
  have hadd := add_normal hm hn hz
  have hexact : (m * 2 ^ (s - z) + n * 2 ^ (t - z)) * 2 ^ z = m * 2 ^ s + n * 2 ^ t := by
    rw [Nat.add_mul, Nat.mul_assoc, Nat.mul_assoc, ← Nat.pow_add, ← Nat.pow_add,
      Nat.sub_add_cancel (by omega), Nat.sub_add_cancel (by omega)]
  have hle : 2 ^ 23 ≤ m * 2 ^ (s - z) + n * 2 ^ (t - z) :=
    (hm.le_mantissa.trans (Nat.le_mul_of_pos_right m (Nat.two_pow_pos _))).trans
      (Nat.le_add_right _ _)
  generalize m * 2 ^ (s - z) + n * 2 ^ (t - z) = total at hadd hexact hle
  have hpos : total ≠ 0 := by omega
  obtain ⟨shift, hshift⟩ := Nat.exists_eq_add_of_le ((Nat.le_log2 hpos).mpr hle)
  have hscale : z + shift < 100 := by
    rw [← hexact] at hsum
    have hlt := log2_add_lt hpos hsum
    omega
  obtain ⟨scale, mantissa, h, hround, hrounds⟩ :=
    exists_round hshift hscale .exact (Or.inl ⟨rfl, rfl⟩)
  rw [hexact] at hrounds
  refine ⟨_, ⟨scale, mantissa, h, ?_, rfl⟩, hrounds⟩
  rw [hadd, round_eq hshift, hround, settle_pack h]

/-! ## Natural numbers -/

theorem ofNat_eq_round {n : Nat} (hpos : 0 < n) (hlt : n < 2 ^ 64) :
    ofNat n = ofFloat32
      ⟨Float32.Model.pack (UnpackedFloat.round Format.binary32 .positive n 0)⟩ := by
  have hvalue : n.toUInt64.toNat = n := by
    rw [Nat.toUInt64, UInt64.toNat_ofNat']
    omega
  change ofFloat32 ⟨Float32.Model.pack (UnpackedFloat.normalize Format.binary32
    ((n.toUInt64.toNat : Nat) : Int) 0 .positive)⟩ = _
  rw [hvalue, normalize_eq hpos]

theorem counts_ofNat {n : Nat} (hpos : 0 < n) (hlt : n < 2 ^ 24) :
    (ofNat n).Counts (n * 2 ^ 23) := by
  have hlog : n.log2 < 24 := (Nat.log2_lt hpos.ne').mpr hlt
  obtain ⟨zeros, hzeros⟩ := Nat.exists_eq_add_of_le (Nat.le_of_lt_succ hlog)
  have hshift : (n * 2 ^ zeros).log2 = 23 + 0 := by
    have hhigh : 23 + 0 + 1 = n.log2 + 1 + zeros := by omega
    apply log2_eq
    · rw [Nat.add_zero, hzeros, Nat.pow_add]
      exact Nat.mul_le_mul_right _ (Nat.log2_self_le hpos.ne')
    · rw [hhigh, Nat.pow_add]
      exact Nat.mul_lt_mul_of_pos_right Nat.lt_log2_self (Nat.two_pow_pos _)
  obtain ⟨scale, mantissa, h, hround, hrounds⟩ :=
    exists_round hshift (by omega : n.log2 + 0 < 100) .exact (Or.inl ⟨rfl, rfl⟩)
  have hunits : n * 2 ^ zeros * 2 ^ n.log2 = n * 2 ^ 23 := by
    rw [Nat.mul_assoc, ← Nat.pow_add, Nat.add_comm, ← hzeros]
  rw [hunits] at hrounds
  refine ⟨scale, mantissa, h, ?_, ?_⟩
  · rw [ofNat_eq_round hpos (by omega), round_eq_of_zeros hzeros.symm, hround, ofFloat32_pack h]
  · refine (hrounds.eq rfl ?_).symm
    rw [Nat.pow_add]
    exact Nat.mul_lt_mul_of_pos_right hlt (Nat.two_pow_pos _)

/-- Larger natural numbers are rounded to their leading digits. -/
theorem exists_counts_ofNat {n : Nat} (hpos : 0 < n) (hlt : n < 2 ^ 64) :
    ∃ units, (ofNat n).Counts units := by
  rcases Nat.lt_or_ge n (2 ^ 24) with hsmall | hlarge
  · exact ⟨_, counts_ofNat hpos hsmall⟩
  · have hlog : n.log2 < 64 := (Nat.log2_lt hpos.ne').mpr hlt
    obtain ⟨shift, hshift⟩ := Nat.exists_eq_add_of_le
      ((Nat.le_log2 hpos.ne').mpr ((by norm_num : 2 ^ 23 ≤ 2 ^ 24).trans hlarge))
    obtain ⟨scale, mantissa, h, hround, -⟩ :=
      exists_round hshift (by omega : 23 + shift < 100) .exact (Or.inl ⟨rfl, rfl⟩)
    have hexponent : ((23 : Nat) : Int) - 23 = 0 := rfl
    rw [← round_eq hshift, hexponent] at hround
    refine ⟨_, scale, mantissa, h, ?_, rfl⟩
    rw [ofNat_eq_round hpos hlt, hround, ofFloat32_pack h]

/-! ## Square roots -/

theorem sqrt_normal {scale mantissa : Nat} (h : IsNormal scale mantissa) :
    (normal scale mantissa).sqrt =
      settle ⟨Float32.Model.pack (UnpackedFloat.sqrt Format.binary32 h.value)⟩ := by
  rw [Single.sqrt, isNaN_normal h, if_neg Bool.false_ne_true]
  change settle ⟨Float32.Model.pack (UnpackedFloat.sqrt Format.binary32
    (normal scale mantissa).toFloat32.toModel.unpack)⟩ = _
  rw [unpack_toFloat32 h]

/-- The root is taken of a mantissa with at least twice the digits, on an even scale. -/
theorem sqrtCore_eq {scale mantissa : Nat} (h : IsNormal scale mantissa) :
    ∃ accuracy, sqrtCore Format.binary32 mantissa ((scale : Int) - 23) =
      (Nat.sqrt (mantissa * 2 ^ (23 + scale % 2)), ((scale / 2 : Nat) : Int) - 23, accuracy) := by
  have hmin : Format.minExponent Format.binary32 = -149 := rfl
  have hbits : Format.mantissaBits Format.binary32 = 24 := rfl
  have hscale := h.scale_le
  have htarget : Min.min (((scale : Int) - 23).ediv 2) (Format.targetExponent Format.binary32
      ((totalExponent mantissa ((scale : Int) - 23) + 1).ediv 2)) =
      ((scale / 2 : Nat) : Int) - 23 := by
    have hhalf : ((mantissa.log2 : Int) + 1 + ((scale : Int) - 23) + 1).ediv 2 =
        ((scale / 2 : Nat) : Int) + 1 := by
      rw [h.log2_eq]
      change ((23 : Nat) + 1 + ((scale : Int) - 23) + 1) / 2 = _
      omega
    have hhalf' : ((scale : Int) - 23).ediv 2 = ((scale : Int) - 23) / 2 := rfl
    unfold Format.targetExponent totalExponent
    rw [hmin, hbits, hhalf, hhalf']
    omega
  have hshift : ((scale : Int) - 23 - 2 * (((scale / 2 : Nat) : Int) - 23)).toNat =
      23 + scale % 2 := by omega
  unfold sqrtCore
  dsimp only
  rw [htarget, hshift, Nat.shiftLeft_eq]
  exact ⟨_, rfl⟩

/-- The square of the count of a root is `2 ^ 23` times the count, up to the rounding of a root
that has been found between two numbers next to each other. -/
theorem Counts.sqrt {x : Single} {u : Nat} (h : x.Counts u) (hu : u < 2 ^ 34) :
    ∃ root scale w, scale ≤ 5 ∧ x.sqrt.Counts w ∧
      Rounds (root * 2 ^ scale) ((root + 1) * 2 ^ scale) w ∧
      (root * 2 ^ scale) * (root * 2 ^ scale) ≤ u * 2 ^ 23 ∧
      u * 2 ^ 23 < ((root + 1) * 2 ^ scale) * ((root + 1) * 2 ^ scale) := by
  obtain ⟨s, m, hm, rfl, rfl⟩ := h
  have hs : s < 11 := by
    have hlt := log2_add_lt hm.pos.ne' hu
    rw [hm.log2_eq] at hlt
    omega
  obtain ⟨accuracy, hcore⟩ := sqrtCore_eq hm
  have hunits : m * 2 ^ s * 2 ^ 23 = m * 2 ^ (23 + s % 2) * (2 ^ (s / 2) * 2 ^ (s / 2)) := by
    rw [← Nat.pow_add, Nat.mul_assoc, Nat.mul_assoc, ← Nat.pow_add, ← Nat.pow_add]
    congr 2
    omega
  have hlow : 2 ^ 23 ≤ Nat.sqrt (m * 2 ^ (23 + s % 2)) := by
    rw [Nat.le_sqrt]
    exact Nat.mul_le_mul hm.le_mantissa (Nat.pow_le_pow_right (by norm_num) (by omega))
  have hhigh : Nat.sqrt (m * 2 ^ (23 + s % 2)) < 2 ^ 24 := by
    rw [Nat.sqrt_lt]
    exact Nat.mul_lt_mul_of_lt_of_le hm.mantissa_lt
      (Nat.pow_le_pow_right (by norm_num) (by omega)) (Nat.two_pow_pos _)
  have hle := Nat.sqrt_le (m * 2 ^ (23 + s % 2))
  have hlt := Nat.lt_succ_sqrt (m * 2 ^ (23 + s % 2))
  generalize Nat.sqrt (m * 2 ^ (23 + s % 2)) = root at hcore hlow hhigh hle hlt
  have hlog : root.log2 = 23 + 0 := log2_eq hlow hhigh
  obtain ⟨scale, mantissa, hn, hround, hrounds⟩ :=
    exists_round hlog (by omega : s / 2 + 0 < 100) accuracy (Or.inr rfl)
  refine ⟨root, s / 2, _, by omega, ⟨scale, mantissa, hn, ?_, rfl⟩, hrounds, ?_, ?_⟩
  · rw [sqrt_normal hm, UnpackedFloat.sqrt, hcore]
    dsimp only
    rw [hround, settle_pack hn]
  · rw [hunits, Nat.mul_mul_mul_comm]
    exact Nat.mul_le_mul_right _ hle
  · rw [hunits, Nat.mul_mul_mul_comm (root + 1)]
    exact Nat.mul_lt_mul_of_pos_right hlt (Nat.mul_pos (Nat.two_pow_pos _) (Nat.two_pow_pos _))

end Single
end MazeAgent
