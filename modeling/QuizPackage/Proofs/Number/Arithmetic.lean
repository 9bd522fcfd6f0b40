import QuizPackage.Proofs.Number.Packing

namespace QuizPackage.Number

open Float.Model (UnpackedFloat Format totalExponent)
open Float.Model.UnpackedFloat

variable {mantissa : Nat} {exponent smaller : Int} {number other : UnpackedFloat}
  {exact : ℚ} {x y low high : Float}

theorem scaled_decreaseExponent (sign : Sign) (mantissa : Nat) (less : smaller ≤ exponent) :
    scaled (sign.apply ((mantissa <<< (exponent - smaller).toNat : Nat) : Int)) smaller =
      scaled (sign.apply mantissa) exponent := by
  have decreased := scaled_shiftLeft mantissa exponent (exponent - smaller).toNat
  rw [Int.toNat_of_nonneg (by omega), sub_sub_cancel] at decreased
  rw [scaled_apply, scaled_apply, decreased]

theorem Canonical.neg (canonical : Canonical number) : Canonical number.neg := by
  cases number <;> exact canonical

theorem amount_neg (number : UnpackedFloat) : amount number.neg = -amount number := by
  cases number with
  | finite sign mantissa exponent positive =>
      cases sign with
      | positive => exact scaled_neg mantissa exponent
      | negative => exact (neg_eq_iff_eq_neg.mpr (scaled_neg mantissa exponent)).symm
  | _ => exact neg_zero.symm

theorem Sign.neg_apply (sign : Sign) (n : Int) : (-sign).apply n = -sign.apply n := by
  cases sign with
  | positive => rfl
  | negative => exact (Int.neg_neg n).symm

theorem sub_eq_add (number other : UnpackedFloat) :
    number.sub Format.binary64 other = number.add Format.binary64 other.neg := by
  rcases number with ⟨sign⟩ | _ | ⟨sign⟩ | ⟨sign, mantissa, exponent, _⟩ <;>
    rcases other with ⟨side⟩ | _ | ⟨side⟩ | ⟨side, others, power, _⟩ <;>
    try rfl
  simp only [UnpackedFloat.sub, UnpackedFloat.add, UnpackedFloat.neg, Sign.neg_apply,
    Int.sub_eq_add_neg]

theorem add_rounds (first : Canonical number) (second : Canonical other) :
    Canonical (number.add Format.binary64 other) ∧
      Rounds (amount number + amount other) (amount (number.add Format.binary64 other)) := by
  rcases number with ⟨sign⟩ | _ | ⟨sign⟩ | ⟨sign, mantissa, exponent, positive⟩
  · cases first
  · cases first
  · rcases other with ⟨side⟩ | _ | ⟨side⟩ | ⟨side, others, power, above⟩
    · cases second
    · cases second
    · rw [show amount (.zero sign) + amount (.zero side) = 0 from add_zero 0]
      cases sign <;> cases side <;> exact ⟨trivial, Rounds.refl 0⟩
    · rw [show amount (.zero sign) = 0 from rfl, zero_add]
      exact ⟨second, Rounds.refl _⟩
  · rcases other with ⟨side⟩ | _ | ⟨side⟩ | ⟨side, others, power, above⟩
    · cases second
    · cases second
    · rw [show amount (.zero side) = 0 from rfl, add_zero]
      exact ⟨first, Rounds.refl _⟩
    · have sum : amount (.finite sign mantissa exponent positive) +
          amount (.finite side others power above) =
          scaled (sign.apply ((mantissa <<< (exponent - min exponent power).toNat : Nat) : Int) +
            side.apply ((others <<< (power - min exponent power).toNat : Nat) : Int))
            (min exponent power) := by
        rw [scaled_add, scaled_decreaseExponent sign mantissa (min_le_left _ _),
          scaled_decreaseExponent side others (min_le_right _ _)]
        rfl
      rw [sum]
      exact normalize_rounds _ _ _

theorem sub_rounds (first : Canonical number) (second : Canonical other) :
    Canonical (number.sub Format.binary64 other) ∧
      Rounds (amount number - amount other) (amount (number.sub Format.binary64 other)) := by
  rw [sub_eq_add, sub_eq_add_neg, ← amount_neg]
  exact add_rounds first second.neg

theorem scaled_half (m e : Int) : scaled m (e - 1) = scaled m e / 2 := by
  rw [scaled, scaled, zpow_sub_one₀ (by norm_num)]
  ring

/-- The quotient by the mantissa of two, which is a power of two. -/
theorem quotient_approximates (mantissa : Nat) (exponent : Int) :
    Approximates (mantissa / 2 ^ 52) (exponent + 52)
      (accuracyOfFraction (mantissa % 2 ^ 52) (2 ^ 52)) (scaled mantissa exponent) := by
  have divided := Nat.div_add_mod mantissa (2 ^ 52)
  have remainder := Nat.mod_lt mantissa (Nat.two_pow_pos 52)
  have aligned (m : Int) : scaled m (exponent + 52) = scaled (m * 2 ^ 52) exponent := by
    rw [scaled_of_le (show exponent ≤ exponent + 52 by omega), add_sub_cancel_left]
    rfl
  constructor
  · rw [aligned, scaled_le_iff]
    omega
  · rw [aligned, scaled_lt_iff]
    omega
  · rw [aligned, scaled_inj, accuracyOfFraction]
    split
    · exact iff_of_true rfl (by omega)
    · exact iff_of_false (fun impossible => by cases impossible) (by omega)

theorem signs_div_positive (sign : Sign) : sign / .positive = sign := by
  cases sign <;> rfl

theorem totalExponent_half (mantissa : Nat) (exponent : Int) :
    totalExponent mantissa exponent - totalExponent (2 ^ 52) (-51) =
      totalExponent mantissa (exponent - 2) := by
  simp only [totalExponent, Nat.log2_two_pow]
  omega

/-- The quotient by two is taken of a mantissa with so many more bits that it is not coarser than
the format. -/
theorem divCore_two (fits : Fits mantissa exponent) (positive : 0 < mantissa) :
    ∃ count : Nat, divCore Format.binary64 mantissa exponent (2 ^ 52) (-51) =
        (mantissa <<< count / 2 ^ 52, exponent - 1 - count + 52,
          accuracyOfFraction (mantissa <<< count % 2 ^ 52) (2 ^ 52)) ∧
      (exponent - 1 - count + 52 ≤ -1074 ∨ 2 ^ 52 ≤ mantissa ∧ count = 53) := by
  have short : mantissa.log2 < 53 := (Nat.log2_lt positive.ne').mpr fits.short
  have low := fits.low
  simp only [divCore, totalExponent_half, targetExponent_eq]
  obtain ⟨target, chosen⟩ : ∃ target,
      min (exponent - -51) (max (mantissa.log2 + (exponent - 2) - 52) (-1074)) = target := ⟨_, rfl⟩
  have reached : target = exponent - 1 - (exponent - -51 - target).toNat + 52 := by omega
  rw [chosen]
  refine ⟨(exponent - -51 - target).toNat, by rw [← reached], ?_⟩
  rw [← reached]
  by_cases smallest : target ≤ -1074
  · exact .inl smallest
  · have filled : 2 ^ 52 ≤ mantissa := fits.filled.resolve_right (by omega)
    have log : 52 ≤ mantissa.log2 := (Nat.le_log2 positive.ne').mpr filled
    exact .inr ⟨filled, by omega⟩

/-- Half of a canonical number, as the quotient by the mantissa and the exponent of two. -/
theorem half_rounds (canonical : Canonical number) (positive : 0 < 2 ^ 52) :
    Canonical (number.div Format.binary64 (.finite .positive (2 ^ 52) (-51) positive)) ∧
      Rounds (amount number / 2)
        (amount (number.div Format.binary64 (.finite .positive (2 ^ 52) (-51) positive))) := by
  rcases number with ⟨sign⟩ | _ | ⟨sign⟩ | ⟨sign, mantissa, exponent, filled⟩
  · cases canonical
  · cases canonical
  · rw [show amount (.zero sign) / 2 = 0 from zero_div 2]
    exact ⟨trivial, Rounds.refl 0⟩
  · obtain ⟨count, divided, fine⟩ := divCore_two canonical filled
    have half : amount (.finite sign mantissa exponent filled) / 2 =
        withSign sign (scaled mantissa (exponent - 1)) := by
      rw [← scaled_apply, scaled_half]
      rfl
    have approximates := quotient_approximates (mantissa <<< count) (exponent - 1 - count)
    rw [scaled_shiftLeft] at approximates
    simp only [UnpackedFloat.div, divided, signs_div_positive, half]
    refine roundWithAccuracy_rounds sign approximates ?_
    rcases fine with smallest | ⟨long, rfl⟩
    · exact le_max_of_le_right smallest
    · have double : mantissa <<< 53 / 2 ^ 52 = 2 * mantissa := by
        rw [Nat.shiftLeft_eq]
        omega
      have log : 52 ≤ mantissa.log2 := (Nat.le_log2 filled.ne').mpr long
      rw [double, Nat.log2_two_mul filled.ne']
      omega

/-- The exact number rounded and packed. -/
def RoundedTo (exact : ℚ) (x : Float) : Prop :=
  ∃ number, Canonical number ∧ Rounds exact (amount number) ∧ x.toModel = Float.Model.pack number

theorem add_roundedTo (first : x.isFinite = true) (second : y.isFinite = true) :
    RoundedTo (value x + value y) (x + y) := by
  obtain ⟨canonical, rounds⟩ :=
    add_rounds (canonical_of_isFinite first) (canonical_of_isFinite second)
  exact ⟨_, canonical, rounds, rfl⟩

theorem sub_roundedTo (first : x.isFinite = true) (second : y.isFinite = true) :
    RoundedTo (value x - value y) (x - y) := by
  obtain ⟨canonical, rounds⟩ :=
    sub_rounds (canonical_of_isFinite first) (canonical_of_isFinite second)
  exact ⟨_, canonical, rounds, rfl⟩

theorem half_roundedTo (finite : x.isFinite = true) : RoundedTo (value x / 2) (x / 2.0) := by
  obtain ⟨canonical, rounds⟩ := half_rounds (canonical_of_isFinite finite) (Nat.two_pow_pos 52)
  exact ⟨_, canonical, rounds, rfl⟩

theorem abs_amount {sign : Sign} (positive : 0 < mantissa) :
    |amount (.finite sign mantissa exponent positive)| = scaled mantissa exponent := by
  cases sign with
  | positive => exact abs_of_pos (amount_pos positive)
  | negative =>
      rw [amount_negative, abs_neg]
      exact abs_of_pos (amount_pos positive)

/-- What packing keeps finite is below the limit of the format. -/
theorem isFinite_limited_iff (canonical : Canonical number) :
    (limited number).isFinite = true ↔ |amount number| < scaled (2 ^ 53) 971 := by
  cases number with
  | infinity sign => cases canonical
  | notANumber => cases canonical
  | zero sign =>
      rw [show amount (.zero sign) = 0 from rfl, abs_zero]
      exact iff_of_true rfl (scaled_pos (by norm_num))
  | finite sign mantissa exponent positive =>
      obtain ⟨short, low, filled⟩ := canonical
      rw [abs_amount]
      by_cases small : exponent ≤ 971
      · rw [limited, if_pos small]
        exact iff_of_true rfl (scaled_lt_pow (by exact_mod_cast short) small)
      · rw [limited, if_neg small]
        have long : 2 ^ 52 ≤ mantissa := by omega
        exact iff_of_false (by simp [UnpackedFloat.isFinite])
          (not_lt.mpr (scaled_pow_le (by exact_mod_cast long) (Int.lt_of_not_ge small)))

theorem abs_value_lt (finite : x.isFinite = true) : |value x| < scaled (2 ^ 53) 971 := by
  rw [value, ← isFinite_limited_iff (canonical_of_isFinite finite), limited_of_isFinite finite]
  exact finite

/-- Packing loses nothing of a result that stays finite. -/
theorem RoundedTo.rounds (rounded : RoundedTo exact x) (finite : x.isFinite = true) :
    Rounds exact (value x) := by
  obtain ⟨number, canonical, rounds, packed⟩ := rounded
  change x.toModel.unpack.isFinite = true at finite
  rw [packed, unpack_pack canonical] at finite
  rw [value, packed, unpack_pack canonical]
  obtain kept | ⟨_, _, _, _, _, beyond⟩ := limited_cases number
  · rwa [kept]
  · rw [beyond] at finite
    cases finite

/-- A result between two finite numbers is finite. -/
theorem RoundedTo.isFinite (rounded : RoundedTo exact x) (lowFinite : low.isFinite = true)
    (highFinite : high.isFinite = true) (above : value low ≤ exact) (below : exact ≤ value high) :
    x.isFinite = true := by
  obtain ⟨number, canonical, rounds, packed⟩ := rounded
  have lower := rounds.below _ (onGrid_value lowFinite) above
  have upper := rounds.above _ (onGrid_value highFinite) below
  change x.toModel.unpack.isFinite = true
  rw [packed, unpack_pack canonical, isFinite_limited_iff canonical]
  exact lt_of_le_of_lt (abs_le_max_abs_abs lower upper)
    (max_lt (abs_value_lt lowFinite) (abs_value_lt highFinite))

/-- A result beyond the limit is an infinity, on the side of zero on which the exact number is. -/
theorem RoundedTo.infinite (rounded : RoundedTo exact x) (nonnegative : 0 ≤ exact)
    (infinite : x.isFinite = false) : x.toModel.unpack = .infinity .positive := by
  obtain ⟨number, canonical, rounds, packed⟩ := rounded
  change x.toModel.unpack.isFinite = false at infinite
  rw [packed, unpack_pack canonical] at infinite ⊢
  obtain kept | ⟨sign, mantissa, exponent, positive, rfl, beyond⟩ := limited_cases number
  · rw [kept] at infinite
    cases number with
    | infinity sign => cases canonical
    | notANumber => cases canonical
    | zero sign => cases infinite
    | finite sign mantissa exponent positive => cases infinite
  · rw [beyond]
    cases sign with
    | positive => rfl
    | negative =>
        have side := rounds.below 0 onGrid_zero nonnegative
        rw [amount_negative] at side
        exact absurd (amount_pos positive) (not_lt.mpr (neg_nonneg.mp side))

end QuizPackage.Number
