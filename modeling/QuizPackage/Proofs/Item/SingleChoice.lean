import QuizPackage.Proofs.Item.Building
import QuizPackage.Proofs.Processing.Feedback

namespace QuizPackage

variable {choices : List Choice} {identifiers : List Identifier} {question : Question}
  {issued : ItemIdentifiers} {response : Response}

/-- Whether the choice at a place is correct, and no other is. -/
def IsCorrectPlace (choices : List Choice) (index : Nat) : Prop :=
  ∀ (place : Nat) (choice : Choice), choices[place]? = some choice →
    (choice.correct = true ↔ place = index)

theorem exists_correctPlace (one : choices.countP Choice.correct = 1) :
    ∃ index, IsCorrectPlace choices index := by
  induction choices with
  | nil => cases one
  | cons first rest ih =>
      cases correct : first.correct with
      | true =>
          rw [List.countP_cons_of_pos correct, Nat.add_eq_right] at one
          have others := List.countP_eq_zero.mp one
          refine ⟨0, fun place choice placed => ?_⟩
          cases place with
          | zero =>
              cases placed
              simp [correct]
          | succ place => simpa using others choice (List.mem_of_getElem? placed)
      | false =>
          rw [List.countP_cons_of_neg (by simp [correct])] at one
          obtain ⟨index, only⟩ := ih one
          refine ⟨index + 1, fun place choice placed => ?_⟩
          cases place with
          | zero =>
              cases placed
              simp [correct]
          | succ place => simpa using only place choice placed

/-- The correct choice and its identifier stand at the same place. -/
theorem exists_correct_identifier (counted : identifiers.length = choices.length)
    (one : choices.countP Choice.correct = 1) :
    ∃ index : Nat, ∃ correct, identifiers[index]? = some correct ∧
      IsCorrectPlace choices index ∧ correctChoices choices identifiers = [correct] := by
  obtain ⟨index, only⟩ := exists_correctPlace one
  obtain ⟨correct, alone⟩ := correctChoices_eq_singleton counted one
  obtain ⟨choice, paired, right⟩ :=
    mem_correctChoices.mp (alone.symm ▸ List.mem_singleton_self correct)
  obtain ⟨place, placed⟩ := List.mem_iff_getElem?.mp paired
  obtain ⟨offered, identified⟩ := List.getElem?_zip_eq_some.mp placed
  obtain rfl := (only place choice offered).mp right
  exact ⟨place, correct, identified, only, alone⟩

theorem Question.score_oneChoice {correct : Identifier} (apart : issued.variables.Nodup)
    (asked : question.kind = .singleChoice choices ∨ question.kind = .trueFalse choices)
    (only : correctChoices choices issued.choices = [correct]) (filled : correct.text ≠ "")
    (reads : Number.read? (Number.literal question.points) = some question.points) :
    (response = .identifier correct.text ∨ response = .text correct.text →
      ((question.synthesis issued).score response).score = question.points) ∧
    (¬(response = .identifier correct.text ∨ response = .text correct.text) →
      ((question.synthesis issued).score response).score = 0.0) := by
  have decided : question.kind.condition? issued = some (isChoice issued.response correct) := by
    rcases asked with asked | asked <;> rw [asked, QuestionKind.condition?, only] <;> rfl
  have met : ((isChoice issued.response correct).eval
      ((question.synthesis issued).start response)).holds = true ↔
        response = .identifier correct.text ∨ response = .text correct.text :=
    (isChoice_holds (start_response question issued response)).trans
      (Response.value_eq_single filled)
  have score := Question.score_of_condition apart decided response
  rw [Number.reread_of_read reads] at score
  constructor
  · intro named
    exact score.trans (if_pos (met.mpr named))
  · intro other
    exact score.trans (if_neg fun holds => other (met.mp holds))

/-- The item of a question with one answer has an identifier of its own for each choice. All points
are earned by that of the correct choice, as a selection or as a text, and by nothing else. -/
theorem oneChoice_earns_points_for_correct_only {registry after : Registry} {location : Location}
    {shuffle : Bool} {item : Item} (reachable : registry.Reachable)
    (asked : question.kind = .singleChoice choices ∨ question.kind = .trueFalse choices)
    (ran : buildItem question location shuffle registry = .ok item after)
    (reads : Number.read? (Number.literal question.points) = some question.points) :
    let offered := item.choices.map SimpleChoice.identifier
    offered.length = choices.length ∧ offered.Nodup ∧
      ∃ index : Nat, ∃ correct, offered[index]? = some correct ∧ IsCorrectPlace choices index ∧
        ∀ response,
          (response = .identifier correct.text ∨ response = .text correct.text →
            (item.synthesis.score response).score = question.points) ∧
          (¬(response = .identifier correct.text ∨ response = .text correct.text) →
            (item.synthesis.score response).score = 0.0) := by
  obtain ⟨fine, issued, bound, rfl⟩ := buildItem_ok ran
  have sound := ((buildItem_within question location shuffle).reaches ran).sound reachable.sound
  have decisive := (Question.problem?_eq_none_iff.mp fine).1.decisive
  have one : choices.countP Choice.correct = 1 := by
    rcases asked with asked | asked <;> rw [asked] at decisive <;> exact decisive.2
  have counted : issued.choices.length = choices.length := by
    rw [bound.choices_length]
    rcases asked with asked | asked <;> rw [asked] <;> rfl
  have same : (question.item issued (question.synthesis issued) location shuffle).choices.map
      SimpleChoice.identifier = issued.choices := Question.item_choices bound.choices_length
  rw [same]
  obtain ⟨index, correct, placed, only, alone⟩ := exists_correct_identifier counted one
  have filled := bound.choices_ne_empty sound correct (List.mem_of_getElem? placed)
  exact ⟨counted, bound.choices_nodup sound, index, correct, placed, only, fun response =>
    Question.score_oneChoice bound.distinct asked alone filled reads⟩

def needle : Question :=
  { title := some "Compass"
    prompt := "<p>Where does the needle point?</p>"
    points := 2.5
    kind := .singleChoice [.plain "East" false, .plain "North" true, .plain "North" false]
    feedback := ⟨none, none, some "Once more"⟩
    assets := [] }

theorem needle_earns_points_for_north :
    ∃ item after, buildItem needle (.inGroup 0 1) true (Registry.empty "" false) = .ok item after ∧
      (item.synthesis.score (.identifier "choice_2")).score = 2.5 ∧
      (item.synthesis.score (.text "choice_2")).score = 2.5 ∧
      (item.synthesis.score (.identifier "choice_3")).score = 0.0 ∧
      (item.synthesis.score (.identifiers ["choice_2"])).score = 0.0 ∧
      (item.synthesis.score (.number 2.0)).score = 0.0 ∧
      (item.synthesis.score .empty).score = 0.0 := by
  have fine : needle.problem? (.inGroup 0 1) = none :=
    Option.isNone_iff_eq_none.mp (by decide +kernel)
  have lenient : (Registry.empty "" false).strict = false := rfl
  obtain ⟨item, after, ran⟩ := Issuing.verdict_eq_none.mp
    ((buildItem_verdict lenient needle (.inGroup 0 1) true).trans fine)
  have listed : (match buildItem needle (.inGroup 0 1) true (Registry.empty "" false) with
      | .ok item _ => item.choices.map SimpleChoice.identifier
      | .error _ _ => []) = [⟨"choice"⟩, ⟨"choice_2"⟩, ⟨"choice_3"⟩] := by
    decide +kernel
  obtain ⟨_, _, index, correct, placed, only, earned⟩ := oneChoice_earns_points_for_correct_only
    ⟨"", false, .refl _⟩ (.inl rfl) ran (by decide +kernel)
  rw [ran] at listed
  dsimp only at listed
  obtain rfl : 1 = index := (only 1 _ rfl).mp rfl
  rw [listed] at placed
  cases placed
  exact ⟨item, after, ran, (earned _).1 (.inl rfl), (earned _).1 (.inr rfl),
    (earned _).2 (by simp), (earned _).2 (by simp), (earned _).2 (by simp), (earned _).2 (by simp)⟩

end QuizPackage
