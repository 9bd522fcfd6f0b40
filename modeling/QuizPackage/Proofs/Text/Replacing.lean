import QuizPackage.Proofs.Text.Occurrence

/-!
# Replacing

Where a replacement is its pattern with an addition in it, to replace is to insert the addition
behind some openings of the pattern. What stands before a place that no occurrence crosses is
replaced apart from what stands behind it, so a pattern that overlaps no other occurrence of itself
is replaced wherever it stands.
-/

namespace QuizPackage.Text

variable {pattern replacement opening addition body front back rest tail text out : List Char}
  {skip : Nat}

/-- No occurrence of a pattern crosses the place between two texts. -/
def Parted (pattern front back : List Char) : Prop :=
  ∀ inside outside, pattern = inside ++ outside → inside <:+ front → outside <+: back →
    inside = [] ∨ outside = []

/-- No end of a text is also how it begins, so that two occurrences of it never overlap. -/
def Unbordered (text : List Char) : Prop :=
  ∀ front back, text = front ++ back → front ≠ [] → back <+: text → back = []

theorem Parted.of_suffix (parted : Parted pattern front back) (ends : rest <:+ front) :
    Parted pattern rest back :=
  fun inside outside split suffix begins => parted inside outside split (suffix.trans ends) begins

theorem Parted.starts_front (parted : Parted pattern front back) (filled : front ≠ [])
    (starts : pattern <+: front ++ back) : pattern <+: front := by
  obtain ⟨rest, equal⟩ := starts
  rcases List.append_eq_append_iff.mp equal with ⟨excess, held, _⟩ | ⟨excess, cut, held⟩
  · exact ⟨excess, held.symm⟩
  · rcases parted front excess cut List.suffix_rfl ⟨rest, held.symm⟩ with nothing | nothing
    · exact (filled nothing).elim
    · rw [nothing, List.append_nil] at cut
      exact cut ▸ List.prefix_rfl

theorem Unbordered.parted (unbordered : Unbordered pattern) (front back : List Char) :
    Parted pattern front (pattern ++ back) := by
  intro inside outside split _ begins
  by_contra crossing
  rw [not_or] at crossing
  have shorter : outside.length ≤ pattern.length := by simp [split]
  have again : outside <+: pattern :=
    List.prefix_of_prefix_length_le begins (List.prefix_append _ _) shorter
  exact crossing.2 (unbordered inside outside split crossing.1 again)

theorem replaceFrom_passed (pattern replacement passed text : List Char) :
    replaceFrom pattern replacement passed.length (passed ++ text) =
      replaceFrom pattern replacement 0 text := by
  induction passed with
  | nil => rfl
  | cons _ _ ih => exact ih

theorem replaceFrom_of_starts (filled : pattern ≠ []) :
    replaceFrom pattern replacement 0 (pattern ++ text) =
      replacement ++ replaceFrom pattern replacement 0 text := by
  obtain ⟨c, pattern, rfl⟩ := List.exists_cons_of_ne_nil filled
  have starts : (c :: pattern).isPrefixOf (c :: (pattern ++ text)) = true :=
    List.isPrefixOf_iff_prefix.mpr (List.prefix_append (c :: pattern) text)
  rw [List.cons_append, replaceFrom, if_pos starts]
  exact congrArg (replacement ++ ·) (replaceFrom_passed _ _ pattern text)

theorem replaceFrom_of_absent (absent : ¬pattern <:+: text) :
    replaceFrom pattern replacement 0 text = text := by
  induction text with
  | nil => rfl
  | cons c rest ih =>
      rw [List.infix_cons_iff, not_or] at absent
      rw [replaceFrom, if_neg (mt List.isPrefixOf_iff_prefix.mp absent.1), ih absent.2]

/-- What stands before a place that no occurrence crosses is replaced apart from what stands
behind. -/
theorem replaceFrom_append (parted : Parted pattern front back) (inside : skip ≤ front.length) :
    replaceFrom pattern replacement skip (front ++ back) =
      replaceFrom pattern replacement skip front ++ replaceFrom pattern replacement 0 back := by
  induction front generalizing skip with
  | nil =>
      obtain rfl : skip = 0 := Nat.le_zero.mp inside
      rfl
  | cons c front ih =>
      have later := parted.of_suffix (List.suffix_cons c front)
      rw [List.length_cons] at inside
      cases skip with
      | succ skip => exact ih later (Nat.le_of_succ_le_succ inside)
      | zero =>
          rw [List.cons_append, replaceFrom, replaceFrom]
          by_cases starts : pattern <+: c :: front
          · have longer : pattern <+: c :: (front ++ back) :=
              starts.trans (List.prefix_append (c :: front) back)
            have fits := starts.length_le
            rw [List.length_cons] at fits
            rw [if_pos (List.isPrefixOf_iff_prefix.mpr longer),
              if_pos (List.isPrefixOf_iff_prefix.mpr starts),
              ih later (Nat.sub_le_iff_le_add.mpr fits), List.append_assoc]
          · have none : ¬pattern.isPrefixOf (c :: (front ++ back)) = true := fun held =>
              starts (parted.starts_front (List.cons_ne_nil c front)
                (List.isPrefixOf_iff_prefix.mp held))
            rw [if_neg none, if_neg (mt List.isPrefixOf_iff_prefix.mp starts),
              ih later (Nat.zero_le _), List.cons_append]

/-- An occurrence of a pattern that overlaps no other is replaced. -/
theorem replaceFrom_occurrence (unbordered : Unbordered pattern) (filled : pattern ≠ [])
    (inside : skip ≤ front.length) :
    replaceFrom pattern replacement skip (front ++ (pattern ++ back)) =
      replaceFrom pattern replacement skip front ++
        (replacement ++ replaceFrom pattern replacement 0 back) := by
  rw [replaceFrom_append (unbordered.parted front back) inside, replaceFrom_of_starts filled]

/-- A text with an addition behind some of the openings that a body follows. The body may reach into
the tail, which stands behind the text. -/
inductive Inserts (opening addition body tail : List Char) : List Char → List Char → Prop
  | rest (text : List Char) : Inserts opening addition body tail text text
  | insert (front : List Char) {after out : List Char} (follows : body <+: after ++ tail)
      (inserts : Inserts opening addition body tail after out) :
      Inserts opening addition body tail (front ++ (opening ++ after))
        (front ++ (opening ++ (addition ++ out)))

theorem Inserts.append_left (inserts : Inserts opening addition body tail text out)
    (front : List Char) : Inserts opening addition body tail (front ++ text) (front ++ out) := by
  cases inserts with
  | rest => exact .rest _
  | insert kept follows inserts =>
      rw [← List.append_assoc, ← List.append_assoc front]
      exact .insert _ follows inserts

/-- To replace an opening and its body by both with an addition between them is to insert it. -/
theorem inserts_replaceFrom (filled : opening ≠ []) :
    Inserts opening addition body [] (text.drop skip)
      (replaceFrom (opening ++ body) (opening ++ (addition ++ body)) skip text) := by
  induction text generalizing skip with
  | nil =>
      rw [List.drop_nil]
      exact .rest []
  | cons c rest ih =>
      cases skip with
      | succ skip => exact ih
      | zero =>
          rw [List.drop_zero, replaceFrom]
          split
          case isFalse =>
            have kept : Inserts opening addition body [] (rest.drop 0) _ := ih
            exact kept.append_left [c]
          case isTrue starts =>
            obtain ⟨after, equal⟩ := List.isPrefixOf_iff_prefix.mp starts
            have left : rest.drop ((opening ++ body).length - 1) = after := by
              obtain ⟨first, others, rfl⟩ := List.exists_cons_of_ne_nil filled
              obtain ⟨-, rfl⟩ := List.cons.inj equal
              simp [List.drop_append]
            have inserts : Inserts opening addition body []
                (rest.drop ((opening ++ body).length - 1)) _ := ih
            rw [left] at inserts
            rw [← equal, List.append_assoc, List.append_assoc, List.append_assoc]
            exact .insert [] (by simp) (inserts.append_left body)

/-- Nothing is inserted into a text without an opening. -/
theorem Inserts.eq_of_absent (inserts : Inserts opening addition body tail text out)
    (absent : ¬opening <:+: text) : out = text := by
  cases inserts with
  | rest => rfl
  | insert kept follows inserts => exact (absent ⟨kept, _, List.append_assoc _ _ _⟩).elim

/-- A text no longer than the opening gets an addition at its end, if it is the opening. -/
theorem Inserts.cases_of_length_le (inserts : Inserts opening addition body tail text out)
    (filled : opening ≠ []) (short : text.length ≤ opening.length) :
    out = text ∨ text = opening ∧ out = opening ++ addition ∧ body <+: tail := by
  cases inserts with
  | rest => exact .inl rfl
  | @insert kept after out follows inserts =>
      simp only [List.length_append] at short
      obtain rfl : kept = [] := List.length_eq_zero_iff.mp (by omega)
      obtain rfl : after = [] := List.length_eq_zero_iff.mp (by omega)
      obtain rfl := inserts.eq_of_absent (by simpa using filled)
      exact .inr (by simpa using follows)

/-- What crosses no place between two texts stands in one of them. -/
theorem Parted.inside_or_inside (parted : Parted opening front back)
    (held : opening <:+: front ++ back) : opening <:+: front ∨ opening <:+: back := by
  obtain ⟨before, after, equal⟩ := held
  rcases List.append_eq_append_iff.mp equal with ⟨excess, rfl, _⟩ | ⟨excess, split, rfl⟩
  · exact .inl ⟨before, excess, rfl⟩
  · rcases List.append_eq_append_iff.mp split with ⟨more, rfl, whole⟩ | ⟨more, rfl, rfl⟩
    · rcases parted more excess whole (List.suffix_append before more)
        (List.prefix_append excess after) with rfl | rfl
      · exact .inr ⟨[], after, by rw [whole, List.nil_append, List.nil_append]⟩
      · exact .inl ⟨before, [], by rw [whole, List.append_nil, List.append_nil]⟩
    · exact .inr ⟨more, after, rfl⟩

/-- What stands before a place that no opening crosses is changed apart from what stands behind. -/
theorem Inserts.cut (parted : Parted opening front back)
    (inserts : Inserts opening addition body tail (front ++ back) out) :
    ∃ newFront newBack, out = newFront ++ newBack ∧
      Inserts opening addition body (back ++ tail) front newFront ∧
      Inserts opening addition body tail back newBack := by
  generalize whole : front ++ back = text at inserts
  induction inserts generalizing front with
  | rest => exact ⟨front, back, whole.symm, .rest _, .rest _⟩
  | @insert kept after out follows inserts ih =>
      have behind : Inserts opening addition body tail (opening ++ after)
          (opening ++ (addition ++ out)) := .insert [] follows inserts
      rcases List.append_eq_append_iff.mp whole with ⟨excess, rfl, rfl⟩ | ⟨excess, rfl, held⟩
      · exact ⟨front, _, List.append_assoc _ _ _, .rest _, behind.append_left excess⟩
      · rcases List.append_eq_append_iff.mp held with ⟨more, rfl, rfl⟩ | ⟨more, split, rfl⟩
        · have parted : Parted opening more back := fun inside outside split ends =>
            parted inside outside split
              (ends.trans ((List.suffix_append opening more).trans (List.suffix_append kept _)))
          obtain ⟨newMore, newBack, rfl, ofMore, ofBack⟩ := ih parted rfl
          rw [List.append_assoc] at follows
          exact ⟨_, newBack, by simp only [List.append_assoc], .insert kept follows ofMore, ofBack⟩
        · rcases parted excess more split (List.suffix_append kept excess)
            (List.prefix_append more after) with rfl | rfl
          · subst split
            exact ⟨kept, _, rfl, by simpa using .rest kept, behind⟩
          · rw [List.append_nil] at split
            subst split
            have added : Inserts opening addition body (after ++ tail) (kept ++ opening)
                (kept ++ (opening ++ addition)) := by
              simpa using Inserts.insert kept (by simpa using follows) (.rest [])
            exact ⟨_, out, by simp only [List.append_assoc], added, inserts⟩

end QuizPackage.Text
