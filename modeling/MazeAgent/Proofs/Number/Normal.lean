import MazeAgent.Number.Single
import Mathlib

/-!
# Positive normal numbers

The pattern of a positive normal number is its scale, moved up so that it is not negative, and
behind it the mantissa without its leading digit. For these patterns packing and unpacking undo
each other, and the place in the order is the pattern itself. The scales here stay far from the
largest one.

**Results.**
* `Single.unpack_toFloat32`: the number that a pattern denotes.
* `Single.settle_pack`: the pattern of a number.
* `Single.place_normal`: the place of a pattern.
-/

namespace MazeAgent
namespace Single

open Float.Model Float.Model.UnpackedFloat

/-- A mantissa of 24 digits on a scale; on the scale `0` the mantissa `2 ^ 23` is one. -/
structure IsNormal (scale mantissa : Nat) : Prop where
  scale_le : scale ≤ 100
  le_mantissa : 2 ^ 23 ≤ mantissa
  mantissa_lt : mantissa < 2 ^ 24

/-- The pattern of a mantissa on a scale. The leading digit of the mantissa is added to the
exponent, which makes up for the one that is missing there. -/
def normal (scale mantissa : Nat) : Single := ⟨UInt32.ofNat ((scale + 126) * 2 ^ 23 + mantissa)⟩

variable {scale mantissa : Nat}

theorem log2_eq {n k : Nat} (hlow : 2 ^ k ≤ n) (hhigh : n < 2 ^ (k + 1)) : n.log2 = k :=
  (Nat.log2_eq_iff (by have := Nat.two_pow_pos k; omega)).mpr ⟨hlow, hhigh⟩

theorem IsNormal.pos (h : IsNormal scale mantissa) : 0 < mantissa :=
  (Nat.two_pow_pos 23).trans_le h.le_mantissa

theorem IsNormal.log2_eq (h : IsNormal scale mantissa) : mantissa.log2 = 23 :=
  Single.log2_eq h.le_mantissa h.mantissa_lt

/-- The number that a mantissa denotes on a scale. -/
abbrev IsNormal.value (h : IsNormal scale mantissa) : UnpackedFloat :=
  .finite .positive mantissa ((scale : Int) - 23) h.pos

/-! ## Packing -/

theorem toNat_packComponents (exponent : BitVec 8) (fraction : BitVec 23) :
    (packComponents Format.binary32 .positive exponent fraction).toNat =
      exponent.toNat * 2 ^ 23 + fraction.toNat := by
  have hfraction := fraction.isLt
  change ((0#1 ++ exponent) ++ fraction).toNat = _
  rw [BitVec.toNat_append, BitVec.toNat_append, Nat.shiftLeft_eq, Nat.shiftLeft_eq]
  simp only [BitVec.toNat_ofNat]
  rw [Nat.zero_mod, Nat.zero_mul, Nat.zero_or, Nat.mul_comm,
    ← Nat.two_pow_add_eq_or_of_lt hfraction]

theorem pack_value (h : IsNormal scale mantissa) :
    UnpackedFloat.pack Format.binary32 h.value =
      packComponents Format.binary32 .positive (BitVec.ofNat 8 (scale + 127))
        (BitVec.ofNat 23 mantissa) := by
  have hscale := h.scale_le
  have hbias : Format.exponentBias Format.binary32 = 127 := rfl
  have hexponent : ((scale : Int) - 23 + (Format.exponentBias Format.binary32 : Nat) +
      (23 : Nat)).toNat = scale + 127 := by
    rw [hbias]
    omega
  simp only [UnpackedFloat.pack]
  rw [h.log2_eq, hexponent, if_neg (by norm_num; omega)]
  exact if_pos rfl

theorem bits_normal (h : IsNormal scale mantissa) :
    (normal scale mantissa).bits =
      UInt32.ofBitVec (UnpackedFloat.pack Format.binary32 h.value) := by
  have hscale := h.scale_le
  have hlow := h.le_mantissa
  have hhigh := h.mantissa_lt
  rw [pack_value h, ← UInt32.toNat_inj]
  change (UInt32.ofNat ((scale + 126) * 2 ^ 23 + mantissa)).toNat = BitVec.toNat _
  rw [toNat_packComponents, UInt32.toNat_ofNat', BitVec.toNat_ofNat, BitVec.toNat_ofNat]
  omega

/-- A number is read back from its pattern. -/
theorem unpack_pack (h : IsNormal scale mantissa) :
    UnpackedFloat.unpack Format.binary32 (UnpackedFloat.pack Format.binary32 h.value) =
      h.value := by
  have hscale := h.scale_le
  have hlow := h.le_mantissa
  have hhigh := h.mantissa_lt
  have hexponent : (BitVec.ofNat 8 (scale + 127)).toNat = scale + 127 := by
    rw [BitVec.toNat_ofNat]
    omega
  have hones : BitVec.ofNat 8 (scale + 127) ≠ -1#8 := by
    intro heq
    have hvalue := congrArg BitVec.toNat heq
    rw [hexponent] at hvalue
    simp at hvalue
    omega
  have hzero : BitVec.ofNat 8 (scale + 127) ≠ 0#8 := by
    intro heq
    have hvalue := congrArg BitVec.toNat heq
    rw [hexponent] at hvalue
    simp at hvalue
  have hmantissa : (1#1 ++ BitVec.ofNat 23 mantissa).toNat = mantissa := by
    rw [BitVec.toNat_append, Nat.shiftLeft_eq, Nat.mul_comm,
      ← Nat.two_pow_add_eq_or_of_lt (BitVec.isLt _), BitVec.toNat_ofNat, BitVec.toNat_ofNat]
    omega
  have hbias : Format.exponentBias Format.binary32 = 127 := rfl
  rw [pack_value h]
  unfold UnpackedFloat.unpack
  simp only [unpackMantissa_packComponents, unpackExponent_packComponents,
    unpackSign_packComponents, Sign.ofBitVec_toBitVec]
  rw [if_neg hones, if_neg hzero]
  congr 1
  rw [hexponent, hbias]
  omega

/-! ## Patterns -/

theorem unpack_toFloat32 (h : IsNormal scale mantissa) :
    (normal scale mantissa).toFloat32.toModel.unpack = h.value := by
  -- The machine number is made by unpacking the pattern once and packing it again.
  change UnpackedFloat.unpack Format.binary32 (UnpackedFloat.pack Format.binary32
    (UnpackedFloat.unpack Format.binary32 (normal scale mantissa).bits.toBitVec)) = _
  rw [bits_normal h]
  change UnpackedFloat.unpack Format.binary32 (UnpackedFloat.pack Format.binary32
    (UnpackedFloat.unpack Format.binary32 (UnpackedFloat.pack Format.binary32 h.value))) = _
  rw [unpack_pack h, unpack_pack h]

theorem ofFloat32_pack (h : IsNormal scale mantissa) :
    ofFloat32 ⟨Float32.Model.pack h.value⟩ = normal scale mantissa := by
  have hbits := bits_normal h
  generalize normal scale mantissa = x at hbits ⊢
  cases x
  exact congrArg Single.mk hbits.symm

theorem settle_pack (h : IsNormal scale mantissa) :
    settle ⟨Float32.Model.pack h.value⟩ = normal scale mantissa := by
  have hnan : Float32.isNaN ⟨Float32.Model.pack h.value⟩ = false := by
    change (UnpackedFloat.unpack Format.binary32
      (UnpackedFloat.pack Format.binary32 h.value)).isNaN = false
    rw [unpack_pack h]
    rfl
  rw [settle, hnan, ofFloat32_pack h]
  rfl

theorem magnitude_normal (h : IsNormal scale mantissa) :
    (normal scale mantissa).magnitude = (scale + 126) * 2 ^ 23 + mantissa ∧
      (normal scale mantissa).isNegative = false := by
  have hscale := h.scale_le
  have hhigh := h.mantissa_lt
  have hbits := toNat_bits (normal scale mantissa)
  have hlt := (normal scale mantissa).magnitude_lt
  have hvalue : (normal scale mantissa).bits.toNat = (scale + 126) * 2 ^ 23 + mantissa := by
    rw [normal, UInt32.toNat_ofNat']
    omega
  rw [hvalue] at hbits
  split at hbits
  · omega
  · next hsign => exact ⟨by omega, by simpa using hsign⟩

theorem place_normal (h : IsNormal scale mantissa) :
    (normal scale mantissa).place = ((scale + 126) * 2 ^ 23 + mantissa : Nat) := by
  obtain ⟨hmagnitude, hsign⟩ := magnitude_normal h
  rw [place, hsign, hmagnitude, if_neg Bool.false_ne_true]

theorem isNaN_normal (h : IsNormal scale mantissa) : (normal scale mantissa).isNaN = false := by
  have hscale := h.scale_le
  have hhigh := h.mantissa_lt
  rw [isNaN, (magnitude_normal h).1, decide_eq_false_iff_not]
  omega

end Single
end MazeAgent
