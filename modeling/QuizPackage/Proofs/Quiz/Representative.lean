import QuizPackage.Proofs.Number.Arithmetic
import QuizPackage.Proofs.Quiz.Validity

namespace QuizPackage.Number

open Float.Model (UnpackedFloat Format)
open Float.Model.UnpackedFloat

variable {x y : Float} {p q : ℚ} {number other : UnpackedFloat}

theorem value_zero : value 0.0 = 0 := rfl

/-- A sum with an operand that is not finite is not finite either. -/
theorem add_of_not_isFinite (unbounded : (number.isFinite && other.isFinite) = false) :
    number.add Format.binary64 other = .notANumber ∨
      ∃ sign, number.add Format.binary64 other = .infinity sign := by
  rcases number with ⟨sign⟩ | _ | ⟨sign⟩ | ⟨sign, mantissa, exponent, _⟩ <;>
    rcases other with ⟨side⟩ | _ | ⟨side⟩ | ⟨side, others, power, _⟩
  case infinity.infinity =>
    cases sign <;> cases side
    · exact .inr ⟨_, rfl⟩
    · exact .inl rfl
    · exact .inl rfl
    · exact .inr ⟨_, rfl⟩
  case zero.zero | zero.finite | finite.zero | finite.finite => cases unbounded
  all_goals first
    | exact .inl rfl
    | exact .inr ⟨_, rfl⟩

theorem isFinite_of_add (finite : (x + y).isFinite = true) :
    x.isFinite = true ∧ y.isFinite = true := by
  rw [← Bool.and_eq_true]
  by_contra unbounded
  change (Float.Model.pack (x.toModel.unpack.add Format.binary64 y.toModel.unpack)).unpack.isFinite
    = true at finite
  obtain nothing | ⟨sign, infinite⟩ := add_of_not_isFinite (Bool.eq_false_iff.mpr unbounded)
  · rw [nothing] at finite
    cases finite
  · rw [infinite] at finite
    cases sign <;> cases finite

/-- Half of an infinity is that infinity. -/
theorem half_of_infinite (infinite : x.toModel.unpack = .infinity .positive) :
    (x / 2.0).toModel.unpack = .infinity .positive := by
  change (Float.Model.pack (x.toModel.unpack.div Format.binary64
    (2.0 : Float).toModel.unpack)).unpack = _
  rw [infinite]
  rfl

theorem add_infinity (finite : number.isFinite = true) (sign : Sign) :
    number.add Format.binary64 (.infinity sign) = .infinity sign := by
  cases number with
  | zero side => rfl
  | finite side mantissa exponent positive => rfl
  | infinity side => cases finite
  | notANumber => cases finite

theorem add_of_infinite (finite : x.isFinite = true)
    (infinite : y.toModel.unpack = .infinity .positive) : x + y = infinity := by
  change Float.ofModel (Float.Model.pack
    (x.toModel.unpack.add Format.binary64 y.toModel.unpack)) = _
  rw [infinite, add_infinity finite]
  rfl

theorem infinity_le (finite : number.isFinite = true) :
    (UnpackedFloat.infinity .positive).le number = false := by
  cases number with
  | zero side => rfl
  | finite side mantissa exponent positive => rfl
  | infinity side => cases finite
  | notANumber => cases finite

theorem not_infinity_le (finite : x.isFinite = true) : ¬infinity ≤ x := by
  change ¬decide ((UnpackedFloat.infinity .positive).le x.toModel.unpack = true) = true
  rw [infinity_le finite]
  decide

/-- The difference of two numbers is no smaller than the smallest positive number. -/
theorem pow_le_of_pos (first : OnGrid p) (second : OnGrid q) (above : q < p) :
    (2 : ℚ) ^ (-1074 : Int) ≤ p - q := by
  obtain ⟨m, e, _, low, rfl⟩ := first
  obtain ⟨n, f, _, lower, rfl⟩ := second
  rw [scaled_of_le low, scaled_of_le lower, scaled_lt_iff] at above
  have one : (2 : ℚ) ^ (-1074 : Int) = scaled 1 (-1074) := by simp [scaled]
  rw [one, scaled_of_le low, scaled_of_le lower, le_sub_iff_add_le, ← scaled_add, scaled_le_iff]
  omega

/-- Of a span of at least one power of two and less than the next, the rounded half is at most that
power, so it is at most the span even where rounding the span made it longer. -/
theorem half_of_span_le {span half : Float} (first : OnGrid p) (second : OnGrid q) (above : q ≤ p)
    (spanRounds : Rounds (p - q) (value span))
    (halfRounds : Rounds (value span / 2) (value half)) : value half ≤ p - q := by
  rcases above.eq_or_lt with rfl | above
  · rw [sub_self] at spanRounds ⊢
    rw [spanRounds.of_onGrid onGrid_zero, zero_div] at halfRounds
    exact (halfRounds.of_onGrid onGrid_zero).le
  · obtain ⟨power, least, greatest⟩ := exists_mem_Ico_zpow (sub_pos.mpr above)
      (show (1 : ℚ) < 2 by norm_num)
    have low : -1074 < power + 1 := (zpow_lt_zpow_iff_right₀ (by norm_num)).mp
      (lt_of_le_of_lt (pow_le_of_pos first second above) greatest)
    have spanBelow := spanRounds.above _ (onGrid_pow low.le) greatest.le
    have halfBelow := halfRounds.above _ (onGrid_pow (e := power) (by omega)) (by
      rw [zpow_add_one₀ (by norm_num)] at spanBelow
      linarith)
    exact halfBelow.trans least

/-- Half of a finite span, added to its lower end, ends inside. -/
theorem middle_between {least greatest : Float} (leastFinite : least.isFinite = true)
    (greatestFinite : greatest.isFinite = true) (ordered : least ≤ greatest)
    (spanFinite : (greatest - least).isFinite = true) :
    (least + (greatest - least) / 2.0).isFinite = true ∧
      least ≤ least + (greatest - least) / 2.0 ∧
      least + (greatest - least) / 2.0 ≤ greatest := by
  obtain ⟨span, named⟩ : ∃ span, greatest - least = span := ⟨_, rfl⟩
  have inOrder := (le_iff_value leastFinite greatestFinite).mp ordered
  have spanRounded := sub_roundedTo greatestFinite leastFinite
  rw [named] at spanRounded spanFinite ⊢
  have spanRounds := spanRounded.rounds spanFinite
  have spanNonnegative : 0 ≤ value span :=
    spanRounds.below 0 onGrid_zero (sub_nonneg.mpr inOrder)
  -- The half lies between zero and the span.
  have halfRounded := half_roundedTo spanFinite
  have halfFinite := halfRounded.isFinite isFinite_zero spanFinite
    (by rw [value_zero]; linarith) (by linarith)
  have halfRounds := halfRounded.rounds halfFinite
  have halfNonnegative : 0 ≤ value (span / 2.0) :=
    halfRounds.below 0 onGrid_zero (by linarith)
  have halfInside := half_of_span_le (onGrid_value greatestFinite) (onGrid_value leastFinite)
    inOrder spanRounds halfRounds
  -- So the sum lies between the ends.
  have middleRounded := add_roundedTo leastFinite halfFinite
  have middleFinite := middleRounded.isFinite leastFinite greatestFinite (by linarith)
    (by linarith)
  have middleRounds := middleRounded.rounds middleFinite
  rw [le_iff_value leastFinite middleFinite, le_iff_value middleFinite greatestFinite]
  exact ⟨middleFinite, middleRounds.below _ (onGrid_value leastFinite) (by linarith),
    middleRounds.above _ (onGrid_value greatestFinite) (by linarith)⟩

/-- Half of an infinite span leads beyond every finite number. -/
theorem middle_of_infinite_span {least greatest : Float} (leastFinite : least.isFinite = true)
    (greatestFinite : greatest.isFinite = true) (ordered : least ≤ greatest)
    (spanInfinite : (greatest - least).isFinite = false) :
    least + (greatest - least) / 2.0 = infinity := by
  have inOrder := (le_iff_value leastFinite greatestFinite).mp ordered
  have spanRounded := sub_roundedTo greatestFinite leastFinite
  exact add_of_infinite leastFinite
    (half_of_infinite (spanRounded.infinite (sub_nonneg.mpr inOrder) spanInfinite))

/-- A tolerance keeps the number itself inside. -/
theorem tolerance_between (lowFinite : (x - y).isFinite = true)
    (highFinite : (x + y).isFinite = true) (tolerated : ¬y < 0.0) :
    x.isFinite = true ∧ x - y ≤ x ∧ x ≤ x + y := by
  obtain ⟨numberFinite, toleranceFinite⟩ := isFinite_of_add highFinite
  have nonnegative : 0 ≤ value y := (le_iff_value isFinite_zero toleranceFinite).mp
    ((le_iff_not_lt isFinite_zero toleranceFinite).mpr tolerated)
  have lowRounds := (sub_roundedTo numberFinite toleranceFinite).rounds lowFinite
  have highRounds := (add_roundedTo numberFinite toleranceFinite).rounds highFinite
  rw [le_iff_value lowFinite numberFinite, le_iff_value numberFinite highFinite]
  exact ⟨numberFinite, lowRounds.above _ (onGrid_value numberFinite) (by linarith),
    highRounds.below _ (onGrid_value numberFinite) (by linarith)⟩

end QuizPackage.Number

namespace QuizPackage

variable {answer : NumericAnswer}

/-- Whether the bounds of a range lie no farther apart than the largest number; the bounds around
an exact number need not be taken apart. -/
def NumericAnswer.hasFiniteSpan : NumericAnswer → Bool
  | .range least greatest => (greatest - least).isFinite
  | .exact _ _ => true

/-- The representative of an accepted number is one of the numbers it accepts, if its span is
finite. -/
theorem NumericAnswer.Proper.representative_between (proper : answer.Proper)
    (spanned : answer.hasFiniteSpan = true) :
    answer.representative.isFinite = true ∧ answer.least ≤ answer.representative ∧
      answer.representative ≤ answer.greatest := by
  cases answer with
  | range least greatest =>
      exact Number.middle_between proper.leastFinite proper.greatestFinite proper.ordered spanned
  | exact value tolerance =>
      exact Number.tolerance_between proper.leastFinite proper.greatestFinite
        (proper.tolerance value tolerance rfl)

theorem NumericAnswer.Proper.representative_infinite (proper : answer.Proper)
    (spanned : answer.hasFiniteSpan = false) : answer.representative = Number.infinity := by
  cases answer with
  | range least greatest =>
      exact Number.middle_of_infinite_span proper.leastFinite proper.greatestFinite proper.ordered
        spanned
  | exact value tolerance => cases spanned

end QuizPackage
