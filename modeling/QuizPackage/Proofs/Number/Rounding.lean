import Mathlib
import QuizPackage.Proofs.Number.Grid
import QuizPackage.Number.Reading

/-!
# Rounded numbers

Unpacked numbers are rounded by cutting off a mantissa while two bits keep track of what is lost.
The result is in canonical form, and nothing on the grid separates it from the exact number.
-/

namespace QuizPackage.Number

open Float.Model (UnpackedFloat Format totalExponent)
open Float.Model.UnpackedFloat

variable {sign : Sign} {mantissa : Nat} {exponent : Int} {accuracy : Accuracy}
  {extended : ExtendedMantissa} {x : ℚ}

/-- What an unpacked number amounts to; infinities and what is not a number amount to zero. -/
def amount : UnpackedFloat → ℚ
  | .finite sign mantissa exponent _ => scaled (sign.apply mantissa) exponent
  | .zero _ | .infinity _ | .notANumber => 0

/-- A mantissa with as many bits as the format has for its number. -/
structure Fits (mantissa : Nat) (exponent : Int) : Prop where
  short : mantissa < 2 ^ 53
  low : -1074 ≤ exponent
  filled : 2 ^ 52 ≤ mantissa ∨ exponent = -1074

/-- Numbers with mantissas that fit. Their exponents may be too large for the format. -/
def Canonical : UnpackedFloat → Prop
  | .finite _ mantissa exponent _ => Fits mantissa exponent
  | .zero _ => True
  | .infinity _ | .notANumber => False

def withSign (sign : Sign) (x : ℚ) : ℚ :=
  match sign with
  | .positive => x
  | .negative => -x

theorem scaled_apply (sign : Sign) (m e : Int) :
    scaled (sign.apply m) e = withSign sign (scaled m e) := by
  cases sign with
  | positive => rfl
  | negative => exact scaled_neg m e

theorem Rounds.withSign {y : ℚ} (rounds : Rounds x y) (sign : Sign) :
    Rounds (withSign sign x) (withSign sign y) := by
  cases sign with
  | positive => exact rounds
  | negative => exact rounds.neg

/-- A mantissa and how accurate it is, as those of a number that is not below it. -/
structure Approximates (mantissa : Nat) (exponent : Int) (accuracy : Accuracy) (x : ℚ) : Prop where
  lower : scaled mantissa exponent ≤ x
  upper : x < scaled (mantissa + 1) exponent
  exact : accuracy = .exact ↔ x = scaled mantissa exponent

/-- The same of a mantissa with two bits for what is lost. -/
structure Covers (extended : ExtendedMantissa) (exponent : Int) (x : ℚ) : Prop where
  lower : scaled extended.mantissa exponent ≤ x
  upper : x < scaled (extended.mantissa + 1) exponent
  exact : (extended.roundBit || extended.stickyBit) = false ↔
    x = scaled extended.mantissa exponent

theorem Approximates.covers (approximates : Approximates mantissa exponent accuracy x) :
    Covers (.ofMantissaAndAccuracy mantissa accuracy) exponent x := by
  obtain ⟨lower, upper, exact⟩ := approximates
  cases accuracy with
  | exact => exact ⟨lower, upper, by simpa [ExtendedMantissa.ofMantissaAndAccuracy] using exact⟩
  | inexact half =>
      cases half <;>
        exact ⟨lower, upper, by simpa [ExtendedMantissa.ofMantissaAndAccuracy] using exact⟩

theorem scaled_succ (m e : Int) : scaled m (e + 1) = scaled (m * 2) e := by
  rw [scaled_of_le (show e ≤ e + 1 by omega)]
  simp

/-- Cutting off one bit of a mantissa. -/
theorem Covers.shiftRightOne (covers : Covers extended exponent x) :
    Covers extended.shiftRightOne (exponent + 1) x := by
  obtain ⟨lower, upper, exact⟩ := covers
  have halved : 2 * (extended.mantissa / 2) + extended.mantissa % 2 = extended.mantissa :=
    Nat.div_add_mod _ _
  have half : extended.shiftRightOne.mantissa = extended.mantissa / 2 := rfl
  refine ⟨?_, ?_, ?_⟩ <;> rw [half, scaled_succ]
  · exact le_trans (scaled_le_iff.mpr (by omega)) lower
  · exact lt_of_lt_of_le upper (scaled_le_iff.mpr (by omega))
  · rcases Nat.mod_two_eq_zero_or_one extended.mantissa with even | odd
    · have same : ((extended.mantissa / 2 : Nat) : Int) * 2 = extended.mantissa := by omega
      rw [same, ← exact]
      simp [ExtendedMantissa.shiftRightOne, even]
    · have less : scaled (((extended.mantissa / 2 : Nat) : Int) * 2) exponent < x :=
        lt_of_lt_of_le (scaled_lt_iff.mpr (by omega)) lower
      refine ⟨fun nothing => ?_, fun equal => absurd equal less.ne'⟩
      simp [ExtendedMantissa.shiftRightOne, odd] at nothing

theorem Covers.shiftRight (covers : Covers extended exponent x) (count : Nat) :
    Covers (extended >>> count) (exponent + count) x := by
  change Covers (Nat.repeat ExtendedMantissa.shiftRightOne count extended) _ x
  induction count with
  | zero => simpa [Nat.repeat] using covers
  | succ count ih =>
      rw [Nat.repeat, Int.natCast_succ, ← Int.add_assoc]
      exact ih.shiftRightOne

theorem roundedMantissa_near (extended : ExtendedMantissa) :
    extended.roundedMantissa = extended.mantissa ∨
      extended.roundedMantissa = extended.mantissa + 1 := by
  rcases extended with ⟨mantissa, _ | _, _ | _⟩ <;>
    dsimp only [ExtendedMantissa.roundedMantissa, ExtendedMantissa.accuracy,
      Accuracy.roundToNearestEven] <;>
    omega

theorem roundedMantissa_of_exact
    (nothing : (extended.roundBit || extended.stickyBit) = false) :
    extended.roundedMantissa = extended.mantissa := by
  rcases extended with ⟨mantissa, _ | _, _ | _⟩ <;> simp_all [ExtendedMantissa.roundedMantissa,
    ExtendedMantissa.accuracy, Accuracy.roundToNearestEven]

theorem targetExponent_eq (mantissa : Nat) (exponent : Int) :
    Format.binary64.targetExponent (totalExponent mantissa exponent) =
      max (mantissa.log2 + exponent - 52) (-1074) := by
  have bits : Format.binary64.mantissaBits = 53 := rfl
  have least : Format.binary64.minExponent = -1074 := rfl
  rw [Format.targetExponent, totalExponent, bits, least]
  congr 1
  omega

section Target

variable {target : Int}

theorem Covers.short (covers : Covers extended target x)
    (approximates : Approximates mantissa exponent accuracy x) (fine : exponent ≤ target)
    (high : mantissa.log2 + exponent - 52 ≤ target) : extended.mantissa < 2 ^ 53 := by
  have cut : (2 : Int) ^ (mantissa.log2 + 1) ≤ 2 ^ (53 + (target - exponent).toNat) :=
    pow_le_pow_right₀ (by norm_num) (by omega)
  have short : (mantissa : Int) + 1 ≤ 2 ^ (mantissa.log2 + 1) := by
    exact_mod_cast Nat.lt_log2_self
  have below : scaled extended.mantissa target < scaled (2 ^ 53) target := by
    rw [scaled_of_le fine (m := 2 ^ 53), ← pow_add]
    exact lt_of_le_of_lt covers.lower
      (lt_of_lt_of_le approximates.upper (scaled_le_iff.mpr (short.trans cut)))
  exact_mod_cast scaled_lt_iff.mp below

theorem Covers.long (covers : Covers extended target x)
    (approximates : Approximates mantissa exponent accuracy x) (fine : exponent ≤ target)
    (positive : 0 < mantissa) (aimed : mantissa.log2 + exponent - 52 = target) :
    2 ^ 52 ≤ extended.mantissa := by
  have cut : (2 : Int) ^ (52 + (target - exponent).toNat) = 2 ^ mantissa.log2 := by
    congr 1
    omega
  have leading : (2 : Int) ^ mantissa.log2 ≤ mantissa := by
    exact_mod_cast Nat.log2_self_le positive.ne'
  have above : scaled (2 ^ 52) target < scaled (extended.mantissa + 1) target := by
    rw [scaled_of_le fine (m := 2 ^ 52), ← pow_add, cut]
    exact lt_of_le_of_lt (scaled_le_iff.mpr leading)
      (lt_of_le_of_lt approximates.lower covers.upper)
  have longer := scaled_lt_iff.mp above
  omega

/-- Cut to its target exponent, a mantissa has at most 53 bits, and no less unless the exponent is
the smallest. -/
theorem Covers.fits (covers : Covers extended target x)
    (approximates : Approximates mantissa exponent accuracy x)
    (aimed : target = max (mantissa.log2 + exponent - 52) (-1074)) (fine : exponent ≤ target) :
    Fits extended.mantissa target := by
  refine ⟨covers.short approximates fine (by omega), by omega, ?_⟩
  by_cases smallest : target = -1074
  · exact .inr smallest
  · have positive : 0 < mantissa := by
      rcases Nat.eq_zero_or_pos mantissa with rfl | positive
      · simp only [Nat.log2_zero, Nat.cast_zero] at aimed
        omega
      · exact positive
    exact .inl (covers.long approximates fine positive (by omega))

end Target

/-- The second cut only takes up what rounding carried over. -/
theorem shiftToTargetExponent_of_rounded {rounded : Nat} {target : Int}
    (short : rounded ≤ 2 ^ 53) (low : -1074 ≤ target) (filled : 2 ^ 52 ≤ rounded ∨ target = -1074) :
    ∃ extended exponent,
      shiftToTargetExponent Format.binary64 rounded target .exact = (extended, exponent) ∧
        Fits extended.mantissa exponent ∧
        scaled extended.mantissa exponent = scaled rounded target := by
  simp only [shiftToTargetExponent, targetExponent_eq, shiftToExponent]
  rcases short.lt_or_eq with shorter | carried
  · have fitting : rounded.log2 ≤ 52 := by
      rcases Nat.eq_zero_or_pos rounded with rfl | positive
      · simp
      · exact Nat.le_of_lt_succ ((Nat.log2_lt positive.ne').mpr shorter)
    have nothing : (max (rounded.log2 + target - 52) (-1074) - target).toNat = 0 := by omega
    rw [nothing, Nat.cast_zero, Int.add_zero]
    exact ⟨_, _, rfl, ⟨shorter, low, filled⟩, rfl⟩
  · have long : rounded.log2 = 53 := by rw [carried, Nat.log2_two_pow]
    have one : (max (rounded.log2 + target - 52) (-1074) - target).toNat = 1 := by omega
    rw [one, carried]
    refine ⟨_, _, rfl, ⟨by decide, by omega, .inl (by decide)⟩, ?_⟩
    rw [Nat.cast_one, scaled_succ]
    rfl

/-- A cut mantissa with its sign, which is nothing if the mantissa is. -/
theorem amount_of_mantissa (sign : Sign) (fits : Fits mantissa exponent) (number : UnpackedFloat)
    (made : number = if h : mantissa = 0 then .zero sign
      else .finite sign mantissa exponent (Nat.pos_of_ne_zero h)) :
    Canonical number ∧ amount number = withSign sign (scaled mantissa exponent) := by
  subst made
  split
  · next nothing =>
      subst nothing
      refine ⟨trivial, ?_⟩
      rw [Nat.cast_zero, scaled_zero]
      cases sign <;> simp [amount, withSign]
  · exact ⟨fits, scaled_apply sign mantissa exponent⟩

/-- A mantissa whose exponent is not too large is rounded to a neighbour of the exact number. -/
theorem roundWithAccuracy_rounds (sign : Sign)
    (approximates : Approximates mantissa exponent accuracy x)
    (fine : exponent ≤ max (mantissa.log2 + exponent - 52) (-1074)) :
    Canonical (roundWithAccuracy Format.binary64 sign mantissa exponent accuracy) ∧
      Rounds (withSign sign x)
        (amount (roundWithAccuracy Format.binary64 sign mantissa exponent accuracy)) := by
  obtain ⟨target, aimed⟩ : ∃ target : Int, target = max (mantissa.log2 + exponent - 52) (-1074) :=
    ⟨_, rfl⟩
  rw [← aimed] at fine
  obtain ⟨cut, first⟩ : ∃ cut, shiftToTargetExponent Format.binary64 mantissa exponent accuracy =
      (cut, target) ∧ Covers cut target x := by
    have reached : exponent + (target - exponent).toNat = target := by omega
    have covers := approximates.covers.shiftRight (target - exponent).toNat
    simp only [shiftToTargetExponent, targetExponent_eq, shiftToExponent, ← aimed, reached]
    rw [reached] at covers
    exact ⟨_, rfl, covers⟩
  obtain ⟨first, covers⟩ := first
  have fits := covers.fits approximates aimed fine
  have near := roundedMantissa_near cut
  have carried : cut.roundedMantissa ≤ 2 ^ 53 := by
    have := fits.short
    omega
  obtain ⟨extended, final, second, finalFits, same⟩ :=
    shiftToTargetExponent_of_rounded carried fits.low
      (fits.filled.imp_left fun filled => by omega)
  obtain ⟨canonical, amounts⟩ := amount_of_mantissa sign finalFits
    (roundWithAccuracy Format.binary64 sign mantissa exponent accuracy)
    (by simp only [roundWithAccuracy, first, second])
  refine ⟨canonical, ?_⟩
  rw [amounts, same]
  refine (rounds_of_whole covers.lower covers.upper ?_ (by omega) fun equal => ?_).withSign sign
  · exact fits.filled.imp_left fun filled => by exact_mod_cast filled
  · rw [roundedMantissa_of_exact (covers.exact.mpr equal)]

theorem approximates_exact (mantissa : Nat) (exponent : Int) :
    Approximates mantissa exponent .exact (scaled mantissa exponent) where
  lower := le_rfl
  upper := scaled_lt_iff.mpr (by omega)
  exact := by simp

theorem scaled_shiftLeft (mantissa : Nat) (exponent : Int) (count : Nat) :
    scaled ((mantissa <<< count : Nat) : Int) (exponent - count) = scaled mantissa exponent := by
  rw [scaled_of_le (show exponent - count ≤ exponent by omega), Nat.shiftLeft_eq]
  simp

theorem log2_shiftLeft (positive : 0 < mantissa) (count : Nat) :
    (mantissa <<< count).log2 = mantissa.log2 + count := by
  induction count with
  | zero => rfl
  | succ count ih =>
      rw [Nat.shiftLeft_succ, Nat.log2_two_mul, ih, Nat.add_assoc]
      exact (Nat.shiftLeft_pos_iff.mpr positive).ne'

/-- A positive mantissa of any exponent is rounded to a neighbour of its number. -/
theorem round_rounds (sign : Sign) (positive : 0 < mantissa) (exponent : Int) :
    Canonical (UnpackedFloat.round Format.binary64 sign mantissa exponent) ∧
      Rounds (withSign sign (scaled mantissa exponent))
        (amount (UnpackedFloat.round Format.binary64 sign mantissa exponent)) := by
  simp only [UnpackedFloat.round, targetExponent_eq, decreaseExponent]
  generalize shifted : (exponent - max (mantissa.log2 + exponent - 52) (-1074)).toNat = count
  have log := log2_shiftLeft positive count
  rw [← scaled_shiftLeft mantissa exponent count]
  exact roundWithAccuracy_rounds sign (approximates_exact _ _) (by omega)

/-- Every mantissa with a sign of its own is rounded to a neighbour of its number. -/
theorem normalize_rounds (mantissa exponent : Int) (zero : Sign) :
    Canonical (UnpackedFloat.normalize Format.binary64 mantissa exponent zero) ∧
      Rounds (scaled mantissa exponent)
        (amount (UnpackedFloat.normalize Format.binary64 mantissa exponent zero)) := by
  rcases lt_trichotomy mantissa 0 with negative | rfl | positive
  · have ordered : compare mantissa 0 = .lt := compare_lt_iff_lt.mpr negative
    have magnitude : 0 < (-mantissa).toNat := by omega
    have rounded := round_rounds .negative magnitude exponent
    have same : withSign .negative (scaled ((-mantissa).toNat : Int) exponent) =
        scaled mantissa exponent := by
      rw [Int.toNat_of_nonneg (by omega), scaled_neg]
      exact neg_neg _
    simpa only [UnpackedFloat.normalize, ordered, same] using rounded
  · rw [scaled_zero]
    exact ⟨trivial, Rounds.refl 0⟩
  · have ordered : compare mantissa 0 = .gt := compare_gt_iff_gt.mpr positive
    have magnitude : 0 < mantissa.toNat := by omega
    have rounded := round_rounds .positive magnitude exponent
    have same : withSign .positive (scaled (mantissa.toNat : Int) exponent) =
        scaled mantissa exponent := by
      rw [Int.toNat_of_nonneg positive.le]
      rfl
    simpa only [UnpackedFloat.normalize, ordered, same] using rounded

end QuizPackage.Number
