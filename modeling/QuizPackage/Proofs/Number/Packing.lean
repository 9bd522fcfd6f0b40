import QuizPackage.Proofs.Number.Rounding

/-!
# Packed numbers

A finite number is kept with a mantissa that fits and an exponent of at most 971. Packing keeps any
such number as it is and takes one with a larger exponent to an infinity, and it is by exponents and
mantissas that numbers compare.
-/

namespace QuizPackage.Number

open Float.Model (UnpackedFloat Format)
open Float.Model.UnpackedFloat

variable {sign : Sign} {mantissa : Nat} {exponent : Int} {number other : UnpackedFloat}
  {x y : Float}

/-- What packing makes of a number. -/
def limited : UnpackedFloat → UnpackedFloat
  | .finite sign mantissa exponent positive =>
      if exponent ≤ 971 then .finite sign mantissa exponent positive else .infinity sign
  | number => number

/-- Packing takes a number to itself or to an infinity of its sign. -/
theorem limited_cases (number : UnpackedFloat) :
    limited number = number ∨ ∃ sign mantissa exponent positive,
      number = .finite sign mantissa exponent positive ∧ limited number = .infinity sign := by
  cases number with
  | finite sign mantissa exponent positive =>
      by_cases small : exponent ≤ 971
      · exact .inl (if_pos small)
      · exact .inr ⟨_, _, _, _, rfl, if_neg small⟩
  | _ => exact .inl rfl

/-- What a floating-point number amounts to. -/
def value (x : Float) : ℚ :=
  amount x.toModel.unpack

theorem toNat_implicit (mantissa : BitVec 52) :
    (1#1 ++ mantissa).toNat = 2 ^ 52 + mantissa.toNat := by
  rw [BitVec.toNat_append, ← Nat.shiftLeft_add_eq_or_of_lt mantissa.isLt]
  rfl

/-- Components with a middling exponent are those of a normal number. -/
theorem unpack_packComponents_normal (sign : Sign) (exponent : BitVec 11) (mantissa : BitVec 52)
    (low : 1 ≤ exponent.toNat) (high : exponent.toNat ≤ 2046) {whole : Nat} (positive : 0 < whole)
    (complete : (1#1 ++ mantissa).toNat = whole) :
    unpack Format.binary64 (packComponents Format.binary64 sign exponent mantissa) =
      .finite sign whole (exponent.toNat - 1075) positive := by
  have notMost : exponent ≠ -1#11 := by
    rintro rfl
    exact absurd high (by decide)
  have notLeast : exponent ≠ 0#11 := by
    rintro rfl
    exact absurd low (by decide)
  subst complete
  simp only [unpack, unpackMantissa_packComponents, unpackExponent_packComponents,
    unpackSign_packComponents, Sign.ofBitVec_toBitVec]
  rw [if_neg notMost, if_neg notLeast]
  rfl

/-- Components with the least exponent and some mantissa are those of a subnormal number. -/
theorem unpack_packComponents_subnormal (sign : Sign) (mantissa : BitVec 52) {whole : Nat}
    (positive : 0 < whole) (complete : mantissa.toNat = whole) :
    unpack Format.binary64 (packComponents Format.binary64 sign 0#11 mantissa) =
      .finite sign whole (-1074) positive := by
  have notMost : 0#11 ≠ -1#11 := by decide
  have filled : mantissa ≠ 0#52 := by
    rintro rfl
    exact positive.ne complete
  subst complete
  simp only [unpack, unpackMantissa_packComponents, unpackExponent_packComponents,
    unpackSign_packComponents, Sign.ofBitVec_toBitVec, if_neg notMost, if_true, dif_neg filled]
  rfl

theorem unpack_pack_normal (sign : Sign) (positive : 0 < mantissa) (short : mantissa < 2 ^ 53)
    (normal : 2 ^ 52 ≤ mantissa) (low : -1074 ≤ exponent) (high : exponent ≤ 971) :
    unpack Format.binary64 (pack Format.binary64 (.finite sign mantissa exponent positive)) =
      .finite sign mantissa exponent positive := by
  have log : mantissa.log2 = 52 := (Nat.log2_eq_iff positive.ne').mpr ⟨normal, short⟩
  obtain ⟨biased, encoded⟩ : ∃ biased : Nat, (exponent + 1075).toNat = biased := ⟨_, rfl⟩
  have kept : (BitVec.ofNat 11 biased).toNat = biased := by
    rw [BitVec.toNat_ofNat]
    omega
  have whole : (1#1 ++ BitVec.ofNat 52 mantissa).toNat = mantissa := by
    rw [toNat_implicit, BitVec.toNat_ofNat]
    omega
  have packed : pack Format.binary64 (.finite sign mantissa exponent positive) =
      packComponents Format.binary64 sign (BitVec.ofNat 11 biased) (BitVec.ofNat 52 mantissa) := by
    have bias : (exponent + Format.binary64.exponentBias +
        Format.binary64.mantissaBitsWithoutImplicit).toNat = biased := by
      rw [← encoded]
      change (exponent + 1023 + 52).toNat = _
      omega
    simp only [pack, bias]
    rw [if_neg (by omega), if_pos (by rw [log]; rfl)]
  rw [packed, unpack_packComponents_normal sign _ _ (by omega) (by omega) positive whole, kept]
  congr 1
  omega

theorem unpack_pack_subnormal (sign : Sign) (positive : 0 < mantissa) (short : mantissa < 2 ^ 52) :
    unpack Format.binary64 (pack Format.binary64 (.finite sign mantissa (-1074) positive)) =
      .finite sign mantissa (-1074) positive := by
  have log : mantissa.log2 < 52 := (Nat.log2_lt positive.ne').mpr short
  have whole : (BitVec.ofNat 52 mantissa).toNat = mantissa := by
    rw [BitVec.toNat_ofNat]
    omega
  have packed : pack Format.binary64 (.finite sign mantissa (-1074) positive) =
      packComponents Format.binary64 sign 0#11 (BitVec.ofNat 52 mantissa) := by
    simp only [pack]
    rw [if_neg (by decide), if_neg (by change ¬mantissa.log2 + 1 = 53; omega)]
  rw [packed, unpack_packComponents_subnormal sign _ positive whole]

theorem unpack_pack_large (sign : Sign) (positive : 0 < mantissa) (large : 971 < exponent) :
    unpack Format.binary64 (pack Format.binary64 (.finite sign mantissa exponent positive)) =
      .infinity sign := by
  have packed : pack Format.binary64 (.finite sign mantissa exponent positive) =
      packedInfinity Format.binary64 sign := by
    simp only [pack]
    rw [if_pos]
    change 2048 ≤ (exponent + 1023 + 52).toNat + 1
    omega
  rw [packed]
  cases sign <;> rfl

theorem unpack_pack (canonical : Canonical number) :
    (Float.Model.pack number).unpack = limited number := by
  change unpack Format.binary64 (pack Format.binary64 number) = limited number
  cases number with
  | infinity sign => cases canonical
  | notANumber => cases canonical
  | zero sign => exact unpack_packedZero
  | finite sign mantissa exponent positive =>
      obtain ⟨short, low, filled⟩ := canonical
      by_cases small : exponent ≤ 971
      · rw [limited, if_pos small]
        by_cases normal : 2 ^ 52 ≤ mantissa
        · exact unpack_pack_normal sign positive short normal low small
        · obtain rfl := filled.resolve_left normal
          exact unpack_pack_subnormal sign positive (Nat.lt_of_not_le normal)
      · rw [limited, if_neg small]
        exact unpack_pack_large sign positive (Int.lt_of_not_ge small)

/-- What is unpacked fits, and its exponent is within the limit. -/
theorem canonical_unpack (bits : BitVec Format.binary64.numBits)
    (finite : (unpack Format.binary64 bits).isFinite = true) :
    Canonical (unpack Format.binary64 bits) ∧
      limited (unpack Format.binary64 bits) = unpack Format.binary64 bits := by
  have bias : (Format.binary64.exponentBias : Int) = 1023 := rfl
  have short : (unpackMantissa bits).toNat < 2 ^ 52 := (unpackMantissa bits).isLt
  have range : (unpackExponent bits).toNat < 2 ^ 11 := (unpackExponent bits).isLt
  simp only [unpack, bias] at finite ⊢
  by_cases most : unpackExponent bits = -1#11
  · rw [if_pos most] at finite
    split at finite <;> cases finite
  · rw [if_neg most]
    by_cases least : unpackExponent bits = 0#11
    · have zero : (unpackExponent bits).toNat = 0 := by rw [least]; rfl
      rw [if_pos least, zero]
      split
      · exact ⟨trivial, rfl⟩
      · exact ⟨⟨by omega, by decide, .inr rfl⟩, rfl⟩
    · have notZero : (unpackExponent bits).toNat ≠ 0 := fun zero =>
        least (BitVec.eq_of_toNat_eq zero)
      have notMost : (unpackExponent bits).toNat ≠ 2047 := fun greatest =>
        most (BitVec.eq_of_toNat_eq greatest)
      have whole := toNat_implicit (unpackMantissa bits)
      have kept : ((unpackExponent bits).toNat : Int) - (1023 + (52 : Nat)) ≤ 971 := by omega
      rw [if_neg least]
      exact ⟨⟨by omega, by omega, .inl (by omega)⟩, if_pos kept⟩

theorem canonical_of_isFinite (finite : x.isFinite = true) : Canonical x.toModel.unpack :=
  (canonical_unpack _ finite).1

theorem limited_of_isFinite (finite : x.isFinite = true) :
    limited x.toModel.unpack = x.toModel.unpack :=
  (canonical_unpack _ finite).2

theorem Canonical.onGrid (canonical : Canonical number) : OnGrid (amount number) := by
  cases number with
  | infinity sign => cases canonical
  | notANumber => cases canonical
  | zero sign => exact onGrid_zero
  | finite sign mantissa exponent positive =>
      refine ⟨sign.apply mantissa, exponent, ?_, canonical.low, rfl⟩
      cases sign <;> simpa [Sign.apply] using canonical.short

theorem onGrid_value (finite : x.isFinite = true) : OnGrid (value x) :=
  (canonical_of_isFinite finite).onGrid

/-- Mantissas that fit decide only between numbers of one exponent. -/
theorem compare_scaled {m n : Nat} {e f : Int} (first : Fits m e) (second : Fits n f) :
    compare (scaled m e) (scaled n f) = (compare e f).then (compare m n) := by
  rcases lt_trichotomy e f with smaller | rfl | larger
  · have below := scaled_le_of_lt (m := m) (n := n) first.short
      (by have := second.filled; have := first.low; omega) smaller
    rw [compare_lt_iff_lt.mpr smaller, compare_lt_iff_lt.mpr (lt_of_abs_lt below)]
    rfl
  · rw [compare_eq_iff_eq.mpr rfl, Ordering.then]
    rcases lt_trichotomy m n with less | rfl | more
    · rw [compare_lt_iff_lt.mpr less, compare_lt_iff_lt, scaled_lt_iff]
      exact_mod_cast less
    · rw [compare_eq_iff_eq.mpr rfl, compare_eq_iff_eq.mpr rfl]
    · rw [compare_gt_iff_gt.mpr more, compare_gt_iff_gt, scaled_lt_iff]
      exact_mod_cast more
  · have below := scaled_le_of_lt (m := n) (n := m) second.short
      (by have := first.filled; have := second.low; omega) larger
    rw [compare_gt_iff_gt.mpr larger, compare_gt_iff_gt.mpr (lt_of_abs_lt below)]
    rfl

theorem compare_neg_neg (a b : ℚ) : compare (-a) (-b) = (compare a b).swap := by
  rcases lt_trichotomy a b with less | rfl | more
  · rw [compare_lt_iff_lt.mpr less, compare_gt_iff_gt.mpr (neg_lt_neg less)]
    rfl
  · rw [compare_eq_iff_eq.mpr rfl, compare_eq_iff_eq.mpr rfl]
    rfl
  · rw [compare_gt_iff_gt.mpr more, compare_lt_iff_lt.mpr (neg_lt_neg more)]
    rfl

theorem amount_pos (positive : 0 < mantissa) :
    0 < amount (.finite .positive mantissa exponent positive) :=
  scaled_pos (m := mantissa) (by exact_mod_cast positive)

theorem amount_negative (positive : 0 < mantissa) :
    amount (.finite .negative mantissa exponent positive) =
      -amount (.finite .positive mantissa exponent positive) :=
  scaled_neg mantissa exponent

/-- Canonical numbers compare as what they amount to. -/
theorem compare_amount (first : Canonical number) (second : Canonical other) :
    number.compare other = some (compare (amount number) (amount other)) := by
  rcases number with ⟨sign⟩ | _ | ⟨sign⟩ | ⟨sign, mantissa, exponent, positive⟩
  · cases first
  · cases first
  · rcases other with ⟨side⟩ | _ | ⟨side⟩ | ⟨side, others, power, above⟩
    · cases second
    · cases second
    · exact congrArg some (compare_eq_iff_eq.mpr rfl).symm
    · cases side with
      | positive => exact congrArg some (compare_lt_iff_lt.mpr (amount_pos above)).symm
      | negative =>
          rw [amount_negative]
          exact congrArg some
            (compare_gt_iff_gt.mpr (neg_lt_zero.mpr (amount_pos above))).symm
  · rcases other with ⟨side⟩ | _ | ⟨side⟩ | ⟨side, others, power, above⟩
    · cases second
    · cases second
    · cases sign with
      | positive => exact congrArg some (compare_gt_iff_gt.mpr (amount_pos positive)).symm
      | negative =>
          rw [amount_negative]
          exact congrArg some
            (compare_lt_iff_lt.mpr (neg_lt_zero.mpr (amount_pos positive))).symm
    · have mantissas := compare_scaled first second
      cases sign <;> cases side
      · rw [amount_negative, amount_negative, compare_neg_neg]
        exact congrArg (fun order => some (Ordering.swap order)) mantissas.symm
      · refine congrArg some (compare_lt_iff_lt.mpr ?_).symm
        rw [amount_negative]
        exact lt_trans (neg_lt_zero.mpr (amount_pos positive)) (amount_pos above)
      · refine congrArg some (compare_gt_iff_gt.mpr ?_).symm
        rw [amount_negative]
        exact lt_trans (neg_lt_zero.mpr (amount_pos above)) (amount_pos positive)
      · exact congrArg some mantissas.symm

theorem le_iff_value (first : x.isFinite = true) (second : y.isFinite = true) :
    x ≤ y ↔ value x ≤ value y := by
  have compared := compare_amount (canonical_of_isFinite first) (canonical_of_isFinite second)
  change decide (x.toModel.unpack.le y.toModel.unpack = true) = true ↔ _
  simp only [UnpackedFloat.le, compared, Option.any_some, decide_eq_true_eq,
    Ordering.isLE_iff_ne_gt, compare_gt_iff_gt, not_lt]
  rfl

end QuizPackage.Number
