import QuizPackage.Number.Reading

namespace QuizPackage.Number

open Float.Model (UnpackedFloat)

theorem compare_swap (first second : UnpackedFloat) :
    second.compare first = (first.compare second).map Ordering.swap := by
  rcases first with ⟨sign⟩ | _ | ⟨sign⟩ | ⟨sign, mantissa, exponent, _⟩ <;>
    rcases second with ⟨other⟩ | _ | ⟨other⟩ | ⟨other, others, power, _⟩
  case finite.finite =>
    dsimp only [UnpackedFloat.compare]
    cases sign <;> cases other <;>
      simp [Ordering.swap_then, Int.compare_swap, Nat.compare_swap]
  all_goals first
    | rfl
    | (cases sign <;> rfl)
    | (cases other <;> rfl)
    | (cases sign <;> cases other <;> rfl)

theorem isSome_compare {first second : UnpackedFloat} (firstFinite : first.isFinite = true)
    (secondFinite : second.isFinite = true) : (first.compare second).isSome = true := by
  rcases first with ⟨sign⟩ | _ | ⟨sign⟩ | ⟨sign, mantissa, exponent, _⟩
  · cases firstFinite
  · cases firstFinite
  · rcases second with _ | _ | _ | ⟨other, others, power, _⟩
    · cases secondFinite
    · cases secondFinite
    · rfl
    · cases other <;> rfl
  · rcases second with _ | _ | _ | ⟨other, others, power, _⟩
    · cases secondFinite
    · cases secondFinite
    · cases sign <;> rfl
    · cases sign <;> cases other <;> rfl

theorem le_iff_not_lt {first second : Float} (firstFinite : first.isFinite = true)
    (secondFinite : second.isFinite = true) : first ≤ second ↔ ¬second < first := by
  have comparable := isSome_compare firstFinite secondFinite
  have swapped := compare_swap first.toModel.unpack second.toModel.unpack
  obtain ⟨order, compared⟩ := Option.isSome_iff_exists.mp comparable
  have atMost : first ≤ second ↔ order.isLE = true := by
    change decide (first.toModel.unpack.le second.toModel.unpack = true) = true ↔ _
    simp [UnpackedFloat.le, compared]
  have greater : second < first ↔ order.swap = .lt := by
    change decide (second.toModel.unpack.lt first.toModel.unpack = true) = true ↔ _
    simp [UnpackedFloat.lt, swapped, compared]
  rw [atMost, greater]
  cases order <;> simp

theorem isFinite_of_le_of_le {least number greatest : UnpackedFloat}
    (leastFinite : least.isFinite = true) (greatestFinite : greatest.isFinite = true)
    (above : least.le number = true) (below : number.le greatest = true) :
    number.isFinite = true := by
  cases number with
  | zero sign => rfl
  | finite sign mantissa exponent positive => rfl
  | notANumber => cases greatest <;> cases below
  | infinity sign =>
      cases sign with
      | positive =>
          cases greatest with
          | zero | finite => cases below
          | infinity | notANumber => cases greatestFinite
      | negative =>
          cases least with
          | zero | finite => cases above
          | infinity | notANumber => cases leastFinite

theorem isFinite_of_between {least number greatest : Float} (leastFinite : least.isFinite = true)
    (greatestFinite : greatest.isFinite = true) (above : least ≤ number)
    (below : number ≤ greatest) : number.isFinite = true :=
  isFinite_of_le_of_le leastFinite greatestFinite (of_decide_eq_true above)
    (of_decide_eq_true below)

end QuizPackage.Number
