import QuizPackage.Proofs.Identifier.Registry
import Mathlib.Order.Bounds.Basic

namespace QuizPackage

/-- The name that the first, second or later call for a base gets. -/
def countedName (base : String) (number : Nat) : String :=
  if number = 1 then base else numbered base number

/-- Calls lead from a registry to another: so many of them ask for a base, and the others take no
name that starts with it. -/
inductive Registry.Counts (base : String) (start : Registry) : Nat → Registry → Prop
  | start : Registry.Counts base start 0 start
  | asked {count : Nat} {registry : Registry} {kind : IdentifierKind} {hint : Option String}
      (counts : Registry.Counts base start count registry) (asks : baseFor kind hint = base) :
      Registry.Counts base start (count + 1) (registry.issue kind hint).2
  | other {count : Nat} {registry : Registry} {request : Request}
      (counts : Registry.Counts base start count registry)
      (apart : ∀ name ∈ (registry.answer request).2.bases, base.toList <+: name.toList →
        name ∈ registry.bases) :
      Registry.Counts base start count (registry.answer request).2

/-- Of the names that start with a base, a registry holds the first so many. -/
def Registry.HoldsCounted (registry : Registry) (base : String) (count : Nat) : Prop :=
  ∀ name, base.toList <+: name.toList →
    (name ∈ registry.bases ↔ ∃ number, 1 ≤ number ∧ number ≤ count ∧ name = countedName base number)

variable {base : String} {taken : List String} {start registry : Registry} {count : Nat}

/-- However many attempts a search for a number has, it never uses more than there are taken names:
it stops at the least number that is free. -/
theorem isLeast_firstFreeFrom {attempts : Nat} (used : base ∈ taken)
    (enough : taken.length ≤ attempts) :
    ∃ number, IsLeast {number | 2 ≤ number ∧ numbered base number ∉ taken} number ∧
      firstFreeFrom base taken attempts 2 = numbered base number := by
  obtain ⟨number, atLeast, result, free, passed⟩ := firstFreeFrom_of_taken used enough
  refine ⟨number, ⟨⟨atLeast, free⟩, ?_⟩, result⟩
  rintro other ⟨otherAtLeast, otherFree⟩
  by_contra below
  exact otherFree (passed other otherAtLeast (Nat.lt_of_not_le below))

theorem countedName_injective (base : String) : Function.Injective (countedName base) := by
  intro first second equal
  unfold countedName at equal
  split at equal <;> split at equal
  · rename_i one two
    exact one.trans two.symm
  · exact absurd equal.symm (numbered_ne_base base second)
  · exact absurd equal (numbered_ne_base base first)
  · exact numbered_injective base equal

theorem base_starts_countedName (base : String) (number : Nat) :
    base.toList <+: (countedName base number).toList := by
  unfold countedName
  split
  · exact List.prefix_rfl
  · rw [numbered, String.append_assoc, String.toList_append]
    exact List.prefix_append _ _

theorem Registry.HoldsCounted.mem_iff (holds : registry.HoldsCounted base count) {number : Nat}
    (atLeast : 1 ≤ number) : countedName base number ∈ registry.bases ↔ number ≤ count := by
  rw [holds _ (base_starts_countedName base number)]
  constructor
  · rintro ⟨other, _, within, equal⟩
    rwa [countedName_injective base equal]
  · intro within
    exact ⟨number, atLeast, within, rfl⟩

theorem countedName_of_two_le {number : Nat} (atLeast : 2 ≤ number) :
    countedName base number = numbered base number :=
  if_neg (by omega)

/-- The next call for a base gets the next number. -/
theorem Registry.HoldsCounted.firstFree (holds : registry.HoldsCounted base count) :
    firstFree base registry.bases = countedName base (count + 1) := by
  have first : base ∈ registry.bases ↔ 1 ≤ count := holds.mem_iff le_rfl
  rcases Nat.eq_zero_or_pos count with rfl | some
  · exact firstFree_of_free fun used => absurd (first.mp used) (by omega)
  · have used := first.mpr some
    obtain ⟨number, ⟨⟨atLeast, free⟩, least⟩, result⟩ := isLeast_firstFreeFrom used le_rfl
    rw [← countedName_of_two_le atLeast, holds.mem_iff (by omega)] at free
    have next : numbered base (count + 1) ∉ registry.bases := by
      rw [← countedName_of_two_le (by omega), holds.mem_iff (by omega)]
      omega
    have notPast : number ≤ count + 1 := least ⟨by omega, next⟩
    obtain rfl : number = count + 1 := by omega
    rw [firstFree_of_used used, result, countedName_of_two_le atLeast]

theorem Registry.HoldsCounted.issue {kind : IdentifierKind} {hint : Option String}
    (holds : registry.HoldsCounted base count) (asks : baseFor kind hint = base) :
    (registry.issue kind hint).2.HoldsCounted base (count + 1) := by
  intro name starts
  have taken : registry.nextBase kind hint = countedName base (count + 1) := by
    rw [Registry.nextBase, asks, holds.firstFree]
  rw [registry.issue_eq, taken, List.mem_cons, holds name starts]
  constructor
  · rintro (rfl | ⟨number, atLeast, within, rfl⟩)
    · exact ⟨count + 1, by omega, le_rfl, rfl⟩
    · exact ⟨number, atLeast, by omega, rfl⟩
  · rintro ⟨number, atLeast, within, rfl⟩
    rcases Nat.le_or_eq_of_le_succ within with earlier | rfl
    · exact .inr ⟨number, atLeast, earlier, rfl⟩
    · exact .inl rfl

theorem Registry.Counts.holdsCounted (counts : start.Counts base count registry)
    (free : ∀ name ∈ start.bases, ¬base.toList <+: name.toList) :
    registry.HoldsCounted base count := by
  induction counts with
  | start =>
      intro name starts
      refine ⟨fun held => absurd starts (free name held), ?_⟩
      rintro ⟨number, atLeast, within, -⟩
      omega
  | asked _ asks ih => exact ih.issue asks
  | @other count registry request _ apart ih =>
      intro name starts
      rw [← ih name starts]
      exact ⟨fun held => apart name held starts,
        fun held => (registry.answer_grows request).bases.subset held⟩

theorem Registry.Counts.suffix (counts : start.Counts base count registry) :
    registry.suffix = start.suffix := by
  induction counts with
  | start => rfl
  | asked _ _ ih => exact ih
  | @other _ registry request _ _ ih => exact (registry.answer_grows request).suffix.trans ih

/-- A base that is free is taken as it is, and one that is taken gets the least number that is free.
So on a registry without names that start with a base, calls for this base count up: the second gets
the number two, the third the number three, and so on. -/
theorem firstFree_takes_least_number (base : String) :
    (∀ taken, base ∉ taken → firstFree base taken = base) ∧
    (∀ taken, base ∈ taken →
      ∃ number, IsLeast {number | 2 ≤ number ∧ numbered base number ∉ taken} number ∧
        firstFree base taken = numbered base number ∧
        ∀ attempts, taken.length ≤ attempts →
          firstFreeFrom base taken attempts 2 = numbered base number) ∧
    ∀ (start : Registry), (∀ name ∈ start.bases, ¬base.toList <+: name.toList) →
      ∀ count registry, start.Counts base count registry →
        ∀ kind hint, baseFor kind hint = base →
          (registry.issue kind hint).1 = start.identifier (countedName base (count + 1)) := by
  refine ⟨fun taken free => firstFree_of_free free, fun taken used => ?_, ?_⟩
  · obtain ⟨number, least, result⟩ := isLeast_firstFreeFrom used le_rfl
    refine ⟨number, least, (firstFree_of_used used).trans result, fun attempts enough => ?_⟩
    obtain ⟨other, otherLeast, result⟩ := isLeast_firstFreeFrom used enough
    rw [result, otherLeast.unique least]
  · intro start free count registry counts kind hint asks
    have name : registry.nextBase kind hint = countedName base (count + 1) := by
      rw [Registry.nextBase, asks, (counts.holdsCounted free).firstFree]
    rw [registry.issue_eq, name, Registry.identifier, counts.suffix]
    rfl

theorem third_question_counts_past_map :
    IsLeast {number | 2 ≤ number ∧ numbered "question" number ∉ ["question_2", "question"]} 3 ∧
      ∃ registry, (Registry.empty "run1" false).Counts "question" 2 registry ∧
        (registry.issue .item (some "QUESTION!")).1 = ⟨"question_3_run1"⟩ := by
  constructor
  · obtain ⟨number, least, result, -⟩ := (firstFree_takes_least_number "question").2.1
      ["question_2", "question"] (by decide)
    have third : firstFree "question" ["question_2", "question"] = numbered "question" 3 := by
      decide +kernel
    rwa [numbered_injective "question" (result.symm.trans third)] at least
  · let first := ((Registry.empty "run1" false).issue .item (some "Question")).2
    let second := (first.answer (.issue .item (some "Map"))).2
    have asked : (Registry.empty "run1" false).Counts "question" 1 first :=
      .asked .start (by decide +kernel)
    have passed : (Registry.empty "run1" false).Counts "question" 1 second :=
      .other asked (by decide +kernel)
    have again : (Registry.empty "run1" false).Counts "question" 2
        (second.issue .item (some "question")).2 := .asked passed (by decide +kernel)
    have named := (firstFree_takes_least_number "question").2.2 (Registry.empty "run1" false)
      (by simp [Registry.empty]) 2 _ again .item (some "QUESTION!") (by decide +kernel)
    exact ⟨_, again, named.trans (by decide +kernel)⟩

end QuizPackage
