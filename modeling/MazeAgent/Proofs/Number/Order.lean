import MazeAgent.Number.Single
import Mathlib.Tactic

/-!
# Comparing binary32 numbers

The comparison of the numbers that patterns denote is a linear preorder on all patterns that
denote a number, in which only the two zeros are equal without being the same. A comparison with
a not-a-number is false.

**Results.**
* `Single.lt_iff`, `Single.le_iff`: the comparisons by signed magnitudes.
* `Single.not_lt_iff`: totality.
* `Single.IsProper.place_lt_iff`: the total order on patterns is the order of the numbers as long
  as negative zero is left out.
-/

namespace MazeAgent
namespace Single

variable {x y z : Single}

theorem lt_iff :
    x < y ↔ x.isNaN = false ∧ y.isNaN = false ∧ x.signedMagnitude < y.signedMagnitude := by
  change x.lt y = true ↔ _
  simp [lt, and_assoc]

theorem le_iff :
    x ≤ y ↔ x.isNaN = false ∧ y.isNaN = false ∧ x.signedMagnitude ≤ y.signedMagnitude := by
  change x.le y = true ↔ _
  simp [le, and_assoc]

theorem lt_of_lt_of_le (hxy : x < y) (hyz : y ≤ z) : x < z := by
  rw [lt_iff] at *
  rw [le_iff] at hyz
  exact ⟨hxy.1, hyz.2.1, hxy.2.2.trans_le hyz.2.2⟩

protected theorem lt_of_le_of_lt (hxy : x ≤ y) (hyz : y < z) : x < z := by
  rw [lt_iff] at *
  rw [le_iff] at hxy
  exact ⟨hxy.1, hyz.2.1, hxy.2.2.trans_lt hyz.2.2⟩

protected theorem le_trans (hxy : x ≤ y) (hyz : y ≤ z) : x ≤ z := by
  rw [le_iff] at *
  exact ⟨hxy.1, hyz.2.1, hxy.2.2.trans hyz.2.2⟩

instance : IsTrans Single (fun x y => y ≤ x) := ⟨fun _ _ _ hyx hzy => Single.le_trans hzy hyx⟩

theorem le_of_lt (h : x < y) : x ≤ y := by
  rw [lt_iff] at h
  exact le_iff.mpr ⟨h.1, h.2.1, h.2.2.le⟩

theorem le_refl (h : x.isNaN = false) : x ≤ x := le_iff.mpr ⟨h, h, Int.le_refl _⟩

theorem lt_irrefl (x : Single) : ¬ x < x := fun h => Int.lt_irrefl _ (lt_iff.mp h).2.2

/-- One of two numbers is at most the other. -/
theorem not_lt_iff (hx : x.isNaN = false) (hy : y.isNaN = false) : ¬ x < y ↔ y ≤ x := by
  rw [lt_iff, le_iff]
  simp [hx, hy]

/-- The total order on patterns puts the smaller of two numbers first. -/
theorem place_lt_of_lt (h : x < y) : x.place < y.place := by
  have hmagnitudes := (lt_iff.mp h).2.2
  unfold signedMagnitude at hmagnitudes
  unfold place
  cases hx : x.isNegative <;> cases hy : y.isNegative <;> simp [hx, hy] at hmagnitudes ⊢ <;> omega

/-- No number is greater than infinity. -/
theorem eq_infinity_of_le (hx : x.isNaN = false)
    (h : infinity.signedMagnitude ≤ x.signedMagnitude) : x = infinity := by
  have hinfinity : infinity.signedMagnitude = 0x7f800000 := by decide
  have hplace : infinity.place = 0x7f800000 := by decide
  have hmagnitude : x.magnitude ≤ 0x7f800000 := by simpa [isNaN] using hx
  rw [hinfinity, signedMagnitude] at h
  apply place_injective
  rw [place]
  split at h
  · omega
  · next hsign =>
    rw [if_neg hsign]
    omega

/-! ## Numbers other than negative zero -/

/-- A number with a pattern of its own: it is not negative zero. -/
def IsProper (x : Single) : Prop := x.isNaN = false ∧ x ≠ negZero

/-- The places of negative numbers are moved down by one, to make room for negative zero. -/
theorem IsProper.place_eq (h : x.IsProper) :
    0 ≤ x.signedMagnitude ∧ x.place = x.signedMagnitude ∨
      x.signedMagnitude < 0 ∧ x.place = x.signedMagnitude - 1 := by
  unfold place signedMagnitude
  cases hsign : x.isNegative with
  | false => exact Or.inl ⟨by simp, rfl⟩
  | true =>
      have hmagnitude : x.magnitude ≠ 0 := by
        intro hzero
        apply h.2
        apply place_injective
        rw [place, hsign, hzero]
        decide
      exact Or.inr ⟨by simp; omega, rfl⟩

theorem IsProper.place_lt_iff (hx : x.IsProper) (hy : y.IsProper) :
    x.place < y.place ↔ x < y := by
  have hxplace := hx.place_eq
  have hyplace := hy.place_eq
  rw [lt_iff]
  simp only [hx.1, hy.1, true_and]
  omega

end Single
end MazeAgent
