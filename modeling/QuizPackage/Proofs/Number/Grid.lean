import Mathlib.Algebra.Order.Field.Power
import Mathlib.Tactic.Linarith
import Mathlib.Tactic.NormNum
import Mathlib.Tactic.Ring

/-!
# The grid of a number format

Numbers with a mantissa of 53 bits and an exponent of at least -1074 form a grid, in which some
numbers come on several lines. A result is nearest to an exact number only if no number of the grid
lies strictly between the two.
-/

namespace QuizPackage.Number

/-- The number `mantissa × 2 ^ exponent`. -/
def scaled (mantissa exponent : Int) : ℚ :=
  mantissa * 2 ^ exponent

def OnGrid (x : ℚ) : Prop :=
  ∃ mantissa exponent : Int, mantissa.natAbs < 2 ^ 53 ∧ -1074 ≤ exponent ∧
    x = scaled mantissa exponent

/-- Nothing on the grid separates a result from the exact number. -/
structure Rounds (exact result : ℚ) : Prop where
  below : ∀ c, OnGrid c → c ≤ exact → c ≤ result
  above : ∀ c, OnGrid c → exact ≤ c → result ≤ c

variable {m n e f : Int} {x y : ℚ}

theorem scaled_zero (e : Int) : scaled 0 e = 0 := by
  simp [scaled]

theorem scaled_neg (m e : Int) : scaled (-m) e = -scaled m e := by
  simp [scaled]

theorem scaled_add (m n e : Int) : scaled (m + n) e = scaled m e + scaled n e := by
  simp only [scaled, Int.cast_add]
  ring

theorem scaled_le_iff : scaled m e ≤ scaled n e ↔ m ≤ n := by
  have positive : (0 : ℚ) < 2 ^ e := by positivity
  rw [scaled, scaled, mul_le_mul_iff_left₀ positive, Int.cast_le]

theorem scaled_lt_iff : scaled m e < scaled n e ↔ m < n := by
  rw [← not_le, scaled_le_iff, not_le]

theorem scaled_inj : scaled m e = scaled n e ↔ m = n := by
  rw [le_antisymm_iff, scaled_le_iff, scaled_le_iff, le_antisymm_iff]

theorem scaled_pos (positive : 0 < m) : 0 < scaled m e := by
  rw [← scaled_zero e, scaled_lt_iff]
  exact positive

/-- A larger exponent is made up for by a larger mantissa. -/
theorem scaled_of_le (smaller : e ≤ f) : scaled m f = scaled (m * 2 ^ (f - e).toNat) e := by
  have split : (2 : ℚ) ^ f = 2 ^ (f - e).toNat * 2 ^ e := by
    rw [← zpow_natCast, ← zpow_add₀ (by norm_num), Int.toNat_of_nonneg (by omega)]
    congr 1
    omega
  simp only [scaled, split, Int.cast_mul, Int.cast_pow, Int.cast_ofNat]
  ring

/-- A long mantissa with a larger exponent reaches what no short one does. -/
theorem scaled_pow_le (long : 2 ^ 52 ≤ n) (smaller : e < f) : scaled (2 ^ 53) e ≤ scaled n f := by
  have twice : (2 : Int) ^ 1 ≤ 2 ^ (f - e).toNat :=
    pow_le_pow_right₀ (by norm_num) (by omega)
  rw [scaled_of_le (Int.le_of_lt smaller), scaled_le_iff]
  calc (2 : Int) ^ 53 = 2 ^ 52 * 2 ^ 1 := by norm_num
    _ ≤ n * 2 ^ (f - e).toNat := Int.mul_le_mul long twice (by norm_num) (by omega)

theorem scaled_lt_pow (short : m < 2 ^ 53) (smaller : e ≤ f) : scaled m e < scaled (2 ^ 53) f := by
  have once : (1 : Int) ≤ 2 ^ (f - e).toNat := one_le_pow₀ (by norm_num)
  rw [scaled_of_le smaller, scaled_lt_iff]
  calc m < 2 ^ 53 := short
    _ ≤ 2 ^ 53 * 2 ^ (f - e).toNat := le_mul_of_one_le_right (by norm_num) once

/-- Numbers with short mantissas stay below long ones of a larger exponent. -/
theorem scaled_le_of_lt (short : m.natAbs < 2 ^ 53) (long : 2 ^ 52 ≤ n) (smaller : e < f) :
    |scaled m e| < scaled n f := by
  refine lt_of_lt_of_le ?_ (scaled_pow_le long smaller)
  rw [abs_lt, ← scaled_neg, scaled_lt_iff, scaled_lt_iff]
  omega

theorem OnGrid.neg (onGrid : OnGrid x) : OnGrid (-x) := by
  obtain ⟨m, e, short, low, rfl⟩ := onGrid
  exact ⟨-m, e, by rwa [Int.natAbs_neg], low, (scaled_neg m e).symm⟩

theorem onGrid_zero : OnGrid 0 :=
  ⟨0, 0, by norm_num, by norm_num, (scaled_zero 0).symm⟩

/-- Powers of two are on the grid, from the smallest one on. -/
theorem onGrid_pow (low : -1074 ≤ e) : OnGrid (2 ^ e) :=
  ⟨1, e, by norm_num, low, by simp [scaled]⟩

theorem Rounds.of_onGrid (onGrid : OnGrid x) (rounds : Rounds x y) : y = x :=
  le_antisymm (rounds.above x onGrid le_rfl) (rounds.below x onGrid le_rfl)

theorem Rounds.refl (x : ℚ) : Rounds x x :=
  ⟨fun _ _ below => below, fun _ _ above => above⟩

theorem Rounds.neg (rounds : Rounds x y) : Rounds (-x) (-y) where
  below := fun c onGrid below => by
    have above := rounds.above (-c) onGrid.neg (by linarith)
    linarith
  above := fun c onGrid above => by
    have below := rounds.below (-c) onGrid.neg (by linarith)
    linarith

/-- Rounding to one of the two lines around a number skips nothing on the grid, if the lines lie as
close as the grid does there. -/
theorem rounds_of_whole {whole rounded : Int} (lower : scaled whole e ≤ x)
    (upper : x < scaled (whole + 1) e) (fine : 2 ^ 52 ≤ whole ∨ e = -1074)
    (near : rounded = whole ∨ rounded = whole + 1)
    (exact : x = scaled whole e → rounded = whole) : Rounds x (scaled rounded e) := by
  have atLeast : scaled whole e ≤ scaled rounded e := by
    rw [scaled_le_iff]
    omega
  -- What is not on a line of this exponent comes before all of the lines around the number.
  have coarser {m f : Int} (short : m.natAbs < 2 ^ 53) (low : -1074 ≤ f) (smaller : f < e) :
      |scaled m f| < scaled whole e :=
    scaled_le_of_lt short (fine.resolve_right (by omega)) smaller
  constructor
  · rintro c ⟨m, f, short, low, rfl⟩ below
    rcases le_or_gt e f with aligned | smaller
    · rw [scaled_of_le aligned] at below ⊢
      have inside := scaled_lt_iff.mp (lt_of_le_of_lt below upper)
      exact le_trans (scaled_le_iff.mpr (by omega)) atLeast
    · have before := coarser short low smaller
      exact le_trans (le_trans (le_abs_self _) before.le) atLeast
  · rintro c ⟨m, f, short, low, rfl⟩ above
    rcases le_or_gt e f with aligned | smaller
    · rw [scaled_of_le aligned] at above ⊢
      have inside := scaled_le_iff.mp (le_trans lower above)
      rw [scaled_le_iff]
      rcases inside.eq_or_lt with equal | beyond
      · rw [← equal] at above
        exact (exact (le_antisymm above lower)).le.trans inside
      · omega
    · have before := coarser short low smaller
      exact absurd (le_trans lower above) (not_le.mpr (lt_of_le_of_lt (le_abs_self _) before))

end QuizPackage.Number
