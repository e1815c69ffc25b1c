import MazeAgent.Proofs.Number.Order
import MazeAgent.Proofs.Number.Rounding

/-!
# Numbers between two natural numbers

Natural numbers are added without rounding as long as the sum is small. The root of a natural number
lies between two natural numbers, and so far below the second one that adding a natural number
to it does not round it up to there.

**Results.**
* `Single.place_ofNat_lt`: the places of natural numbers are in their order.
* `Single.ofNat_add_ofNat`: sums of natural numbers.
* `Single.isWithin_sqrt`, `Single.IsWithin.ofNat_add`: roots, and what is added to them.
* `Single.IsAbout.place_lt`: numbers with different whole parts are ordered by these.
-/

namespace MazeAgent
namespace Single

open Float.Model

variable {x y z : Single} {m n : Nat}

/-! ## Zero -/

theorem zero_eq : (0 : Single) = ⟨0⟩ := by decide +kernel

theorem place_zero : (0 : Single).place = 0 := by
  rw [zero_eq]
  decide

theorem isNaN_zero : (0 : Single).isNaN = false := by
  rw [zero_eq]
  decide

theorem isZero_zero : (0 : Single).isZero = true := by
  rw [zero_eq]
  decide

theorem signedMagnitude_zero : (0 : Single).signedMagnitude = 0 := by
  rw [zero_eq]
  decide

theorem isProper_zero : (0 : Single).IsProper := by
  rw [zero_eq]
  exact ⟨by decide, by decide⟩

/-! ## Natural numbers -/

theorem place_ofNat_zero : (ofNat 0).place = 0 := place_zero

theorem place_ofNat_lt (h : m < n) (hn : n < 2 ^ 24) : (ofNat m).place < (ofNat n).place := by
  have hcounts := counts_ofNat (by omega : 0 < n) hn
  rcases Nat.eq_zero_or_pos m with rfl | hm
  · rw [place_ofNat_zero]
    exact hcounts.place_pos
  · rw [(counts_ofNat hm (by omega)).place_lt_iff hcounts]
    omega

theorem place_ofNat_le (h : m ≤ n) (hn : n < 2 ^ 24) : (ofNat m).place ≤ (ofNat n).place := by
  rcases Nat.eq_or_lt_of_le h with rfl | hlt
  · exact le_rfl
  · exact (place_ofNat_lt hlt hn).le

/-- The patterns of natural numbers up to the size of the board tell them apart. -/
theorem ofNat_inj (hm : m ≤ 868) (hn : n ≤ 868) (h : ofNat m = ofNat n) : m = n := by
  by_contra hne
  rcases Nat.lt_or_gt_of_ne hne with hlt | hlt
  · exact (place_ofNat_lt hlt (by omega)).ne (congrArg place h)
  · exact (place_ofNat_lt hlt (by omega)).ne (congrArg place h.symm)

/-! ## Whole parts -/

/-- The number lies from one natural number on up to the next one. -/
def IsAbout (x : Single) (n : Nat) : Prop :=
  (ofNat n).place ≤ x.place ∧ x.place < (ofNat (n + 1)).place

/-- The number is a natural number, or more than it but a good deal less than the next one. -/
def IsWithin (x : Single) (n : Nat) : Prop :=
  n = 0 ∧ x = 0 ∨
    ∃ units, x.Counts units ∧ n * 2 ^ 23 ≤ units ∧ units + 2 ^ 16 ≤ (n + 1) * 2 ^ 23

theorem IsAbout.place_lt (hx : x.IsAbout m) (hy : y.IsAbout n) (h : m < n) (hn : n < 2 ^ 24) :
    x.place < y.place :=
  (hx.2.trans_le (place_ofNat_le h hn)).trans_le hy.1

theorem Counts.isAbout {units : Nat} (h : x.Counts units) (hn : n + 1 < 2 ^ 24)
    (hlow : n * 2 ^ 23 ≤ units) (hhigh : units < (n + 1) * 2 ^ 23) : x.IsAbout n := by
  have hpos : 0 < n := by
    have hle := h.le
    omega
  exact ⟨((counts_ofNat hpos (by omega)).place_le_iff h).mpr hlow,
    (h.place_lt_iff (counts_ofNat (by omega) hn)).mpr hhigh⟩

theorem IsWithin.isAbout (h : x.IsWithin n) (hn : n + 1 < 2 ^ 24) : x.IsAbout n := by
  obtain ⟨rfl, rfl⟩ | ⟨units, hx, hlow, hhigh⟩ := h
  · exact ⟨le_rfl, place_ofNat_lt Nat.zero_lt_one (by norm_num)⟩
  · exact hx.isAbout hn hlow (by omega)

theorem isWithin_ofNat (hn : n < 2 ^ 24) : (ofNat n).IsWithin n := by
  rcases Nat.eq_zero_or_pos n with rfl | hpos
  · exact Or.inl ⟨rfl, rfl⟩
  · exact Or.inr ⟨n * 2 ^ 23, counts_ofNat hpos hn, le_rfl, by omega⟩

theorem IsWithin.isProper (h : x.IsWithin n) : x.IsProper := by
  obtain ⟨-, rfl⟩ | ⟨units, hcounts, -, -⟩ := h
  · exact isProper_zero
  · have hpos := hcounts.place_pos
    obtain ⟨scale, mantissa, hnormal, rfl, -⟩ := hcounts
    refine ⟨isNaN_normal hnormal, fun hzero => ?_⟩
    rw [hzero] at hpos
    exact absurd hpos (by decide)

theorem IsWithin.eq_zero_iff (h : x.IsWithin n) : x = 0 ↔ n = 0 := by
  obtain ⟨rfl, rfl⟩ | ⟨units, hcounts, -, hhigh⟩ := h
  · exact iff_of_true rfl rfl
  · have hpos := hcounts.place_pos
    have hle := hcounts.le
    refine iff_of_false (fun hzero => ?_) (by omega)
    rw [hzero, place_zero] at hpos
    exact absurd hpos (Int.lt_irrefl 0)

/-! ## Adding nothing -/

theorem eq_zero_of_isZero (h : z.isZero = true) : z = 0 ∨ z = negZero := by
  have hmagnitude : z.magnitude = 0 := by simpa [isZero] using h
  have hbits := toNat_bits z
  rw [hmagnitude, Nat.add_zero] at hbits
  obtain ⟨bits⟩ := z
  split at hbits
  · right
    exact congrArg Single.mk (UInt32.toNat_inj.mp hbits)
  · left
    rw [zero_eq]
    exact congrArg Single.mk (UInt32.toNat_inj.mp hbits)

theorem isNaN_of_isZero (h : z.isZero = true) : z.isNaN = false := by
  have hmagnitude : z.magnitude = 0 := by simpa [isZero] using h
  simp [isNaN, hmagnitude]

theorem unpack_of_isZero (h : z.isZero = true) :
    ∃ sign, z.toFloat32.toModel.unpack = .zero sign := by
  rcases eq_zero_of_isZero h with rfl | rfl
  · exact ⟨.positive, by rfl⟩
  · exact ⟨.negative, by rfl⟩

theorem Counts.add_isZero {units : Nat} (h : x.Counts units) (hz : z.isZero = true) :
    x + z = x := by
  obtain ⟨s, k, hk, rfl, -⟩ := h
  obtain ⟨sign, hsign⟩ := unpack_of_isZero hz
  rw [add_eq (isNaN_normal hk) (isNaN_of_isZero hz), hsign, unpack_toFloat32 hk]
  exact settle_pack hk

theorem Counts.isZero_add {units : Nat} (h : x.Counts units) (hz : z.isZero = true) :
    z + x = x := by
  obtain ⟨s, k, hk, rfl, -⟩ := h
  obtain ⟨sign, hsign⟩ := unpack_of_isZero hz
  rw [add_eq (isNaN_of_isZero hz) (isNaN_normal hk), hsign, unpack_toFloat32 hk]
  exact settle_pack hk

/-- A zero of either sign changes nothing. -/
theorem IsWithin.add_isZero (h : x.IsWithin n) (hz : z.isZero = true) : x + z = x := by
  obtain ⟨-, rfl⟩ | ⟨units, hx, -, -⟩ := h
  · rcases eq_zero_of_isZero hz with rfl | rfl <;> decide +kernel
  · exact hx.add_isZero hz

/-! ## Adding natural numbers -/

theorem ofNat_add_ofNat (hsum : m + n < 2 ^ 24) : ofNat m + ofNat n = ofNat (m + n) := by
  rcases Nat.eq_zero_or_pos n with rfl | hn
  · exact (isWithin_ofNat (by omega)).add_isZero isZero_zero
  · rcases Nat.eq_zero_or_pos m with rfl | hm
    · rw [Nat.zero_add]
      exact (counts_ofNat hn (by omega)).isZero_add isZero_zero
    · obtain ⟨w, hw, hrounds⟩ := (counts_ofNat hm (by omega)).add
        (counts_ofNat hn (by omega)) (by omega)
      rw [← Nat.add_mul] at hrounds
      have hlt : (m + n) * 2 ^ 23 < 2 ^ (24 + 23) := by
        norm_num
        omega
      obtain rfl := hrounds.eq rfl hlt
      exact hw.unique (counts_ofNat (by omega) hsum)

theorem IsWithin.zero_add (h : x.IsWithin n) : ofNat 0 + x = x := by
  obtain ⟨-, rfl⟩ | ⟨units, hx, -, -⟩ := h
  · exact ofNat_add_ofNat (by norm_num)
  · exact hx.isZero_add isZero_zero

/-- The whole part of a sum. The bounds are points of a grid with 128 points for every one. -/
theorem IsWithin.ofNat_add (h : x.IsWithin n) (hsum : m + n < 2 ^ 16) :
    (ofNat m + x).IsAbout (m + n) := by
  rcases Nat.eq_zero_or_pos m with rfl | hm
  · rw [h.zero_add, Nat.zero_add]
    exact h.isAbout (by omega)
  have hcounts := counts_ofNat hm (by omega)
  obtain ⟨rfl, rfl⟩ | ⟨units, hx, hlow, hhigh⟩ := h
  · rw [hcounts.add_isZero isZero_zero]
    exact hcounts.isAbout (by omega) (by omega) (by omega)
  · obtain ⟨w, hw, hrounds⟩ := hcounts.add hx (by omega)
    have hle := hrounds.le 16 ((m + n) * 2 ^ 7) (by norm_num; omega) (by linarith)
    have hge := hrounds.ge 16 ((m + n) * 2 ^ 7 + 127) (by norm_num; omega) (by linarith)
    exact hw.isAbout (by omega) (by linarith) (by linarith)

/-! ## Roots -/

/-- The root of a natural number has the whole part of the exact root. -/
theorem isWithin_sqrt (hpos : 0 < n) (hn : n < 2 ^ 11) :
    (ofNat n).sqrt.IsWithin (Nat.sqrt n) := by
  obtain ⟨root, scale, w, hscale, hw, hrounds, hle, hlt⟩ :=
    (counts_ofNat hpos (by omega)).sqrt (by omega)
  have hroot := Nat.sqrt_le n
  have hroot' := Nat.lt_succ_sqrt n
  generalize Nat.sqrt n = k at hroot hroot' ⊢
  have hlow : k * 2 ^ 23 ≤ root * 2 ^ scale := by
    have hsplit : k * 2 ^ 23 = k * 2 ^ (23 - scale) * 2 ^ scale := by
      rw [Nat.mul_assoc, ← Nat.pow_add, Nat.sub_add_cancel (by omega)]
    have hless : k * 2 ^ 23 < (root + 1) * 2 ^ scale := by
      apply Nat.mul_self_lt_mul_self_iff.mp
      refine lt_of_le_of_lt ?_ hlt
      rw [Nat.mul_mul_mul_comm, Nat.mul_assoc n]
      exact Nat.mul_le_mul_right _ hroot
    rw [hsplit] at hless ⊢
    exact Nat.mul_le_mul_right _ (Nat.le_of_lt_succ (Nat.lt_of_mul_lt_mul_right hless))
  have hstep : (root + 1) * 2 ^ scale ≤ root * 2 ^ scale + 2 ^ 5 := by
    rw [Nat.add_mul, Nat.one_mul]
    exact Nat.add_le_add_left (Nat.pow_le_pow_right (by norm_num) hscale) _
  generalize (root + 1) * 2 ^ scale = high at hrounds hlt hstep
  generalize root * 2 ^ scale = low at hrounds hle hlow hstep
  have hbound : low < 46 * 2 ^ 23 := by
    apply Nat.mul_self_lt_mul_self_iff.mp
    omega
  -- The square of the next natural number is larger by at least one, and the root below 46.
  have hhigh : low + 65567 < (k + 1) * 2 ^ 23 := by
    by_contra hcontra
    have hsquare := Nat.mul_self_le_mul_self (Nat.le_of_not_lt hcontra)
    nlinarith
  have hge := hrounds.ge 16 (k * 2 ^ 7 + 127) (by norm_num; omega) (by linarith)
  have hle' := hrounds.le 16 (k * 2 ^ 7) (by norm_num; omega) (by linarith)
  exact Or.inr ⟨w, hw, by linarith, by linarith⟩

end Single
end MazeAgent
