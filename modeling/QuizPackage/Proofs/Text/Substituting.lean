import QuizPackage.Proofs.Text.Occurrence

/-!
# Substituting

The occurrences of several patterns in a text, replaced at once. A text is cut at one occurrence
after the other, and what is put in is never looked at again. A function that leaves texts without
an occurrence as they are, and that passes over each occurrence, does the same: so it does not
matter which occurrence is cut out first.
-/

namespace QuizPackage.Text

/-- A pattern with what is put in its place. -/
structure Substitute where
  pattern : String
  replacement : String

/-- One text is the other with every occurrence of a pattern replaced, and with nothing else
changed. -/
inductive Substituted (substitutes : List Substitute) : String → String → Prop
  | untouched {text : String}
      (absent : ∀ substitute ∈ substitutes, contains text substitute.pattern = false) :
      Substituted substitutes text text
  | replaced {front back newFront newBack : String} {substitute : Substitute}
      (listed : substitute ∈ substitutes) (ofFront : Substituted substitutes front newFront)
      (ofBack : Substituted substitutes back newBack) :
      Substituted substitutes (front ++ substitute.pattern ++ back)
        (newFront ++ substitute.replacement ++ newBack)

/-- A function leaves texts without a pattern as they are. It replaces an occurrence of a pattern
wherever it stands, apart from what stands around it. -/
structure Substitutes (substitutes : List Substitute) (change : String → String) : Prop where
  untouched : ∀ text, (∀ substitute ∈ substitutes, contains text substitute.pattern = false) →
    change text = text
  replaced : ∀ substitute ∈ substitutes, ∀ front back,
    change (front ++ substitute.pattern ++ back) =
      change front ++ substitute.replacement ++ change back

variable {substitutes others : List Substitute} {change : String → String} {text out : String}

theorem Substituted.congr (substituted : Substituted substitutes text out)
    (same : ∀ substitute, substitute ∈ substitutes ↔ substitute ∈ others) :
    Substituted others text out := by
  induction substituted with
  | untouched absent =>
      exact .untouched fun substitute listed => absent substitute ((same substitute).mpr listed)
  | replaced listed _ _ ofFront ofBack => exact .replaced ((same _).mp listed) ofFront ofBack

theorem Substitutes.eq (changes : Substitutes substitutes change)
    (substituted : Substituted substitutes text out) : out = change text := by
  induction substituted with
  | untouched absent => exact (changes.untouched _ absent).symm
  | replaced listed _ _ ofFront ofBack => rw [changes.replaced _ listed, ← ofFront, ← ofBack]

theorem Substitutes.substituted (changes : Substitutes substitutes change)
    (filled : ∀ substitute ∈ substitutes, substitute.pattern ≠ "") (text : String) :
    Substituted substitutes text (change text) := by
  by_cases absent : ∀ substitute ∈ substitutes, contains text substitute.pattern = false
  · rw [changes.untouched text absent]
    exact .untouched absent
  · push Not at absent
    obtain ⟨substitute, listed, held⟩ := absent
    obtain ⟨front, back, cut⟩ := contains_iff_append.mp (by simpa using held)
    have occupied : substitute.pattern.length ≠ 0 := fun nothing =>
      filled substitute listed (String.length_eq_zero_iff.mp nothing)
    have longer : text.length = front.length + substitute.pattern.length + back.length := by
      rw [cut, String.length_append, String.length_append]
    rw [cut, changes.replaced substitute listed]
    exact .replaced listed (changes.substituted filled front) (changes.substituted filled back)
termination_by text.length
decreasing_by all_goals omega

theorem Substitutes.iff (changes : Substitutes substitutes change)
    (filled : ∀ substitute ∈ substitutes, substitute.pattern ≠ "") :
    Substituted substitutes text out ↔ out = change text :=
  ⟨changes.eq, fun equal => equal ▸ changes.substituted filled text⟩

/-- A function that passes over what it puts in changes nothing the second time. -/
theorem Substitutes.twice (changes : Substitutes substitutes change)
    (passes : ∀ substitute ∈ substitutes, ∀ front back,
      change (front ++ substitute.replacement ++ back) =
        change front ++ substitute.replacement ++ change back)
    (substituted : Substituted substitutes text out) : change out = out := by
  induction substituted with
  | untouched absent => exact changes.untouched _ absent
  | replaced listed _ _ ofFront ofBack => rw [passes _ listed, ofFront, ofBack]

end QuizPackage.Text
