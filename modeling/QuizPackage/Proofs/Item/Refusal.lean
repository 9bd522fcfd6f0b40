import QuizPackage.Proofs.Item.Building

namespace QuizPackage

variable {registry after : Registry} {question : Question} {location : Location}
  {identifiers : ItemIdentifiers} {problem : Problem} {title : String}

/-- A strict registry has taken the base of a title for something else. -/
structure Registry.RefusesTitle (registry : Registry) (question : Question) (location : Location)
    (title : String) : Prop where
  titled : question.title = some title
  strict : registry.strict = true
  unbound : registry.lookup (.question location) = none
  legible : sanitize title ≠ ""
  taken : baseFor .item (some title) ∈ registry.bases

/-- A body that is given and has more than blank characters in it. -/
def HasText (body : Option String) : Prop :=
  ∃ text ∈ body, Text.blank text = false

/-- What is issued for the parts of a question: one identifier for each choice, a block for each
body that has text in it and that the kind of the question can show, and a variable for the blocks
if there are any. -/
structure ItemIdentifiers.IssuedFor (identifiers : ItemIdentifiers) (question : Question)
    (location : Location) (registry : Registry) : Prop where
  choices : List.Forall₂
    (fun index choice => registry.lookup (.choice location index) = some choice)
    (List.range question.kind.choices.length) identifiers.choices
  general : identifiers.blocks.general.isSome ↔ HasText question.feedback.general
  correct : identifiers.blocks.correct.isSome ↔
    HasText question.feedback.correct ∧ question.kind.autoScored = true
  incorrect : identifiers.blocks.incorrect.isSome ↔
    HasText question.feedback.incorrect ∧ question.kind.autoScored = true
  onChoices : List.Forall₂ (fun choice block => block.isSome ↔ HasText choice.feedback)
    question.kind.choices identifiers.blocks.choices
  feedback : identifiers.feedback.isSome ↔ ∃ block, some block ∈ identifiers.blocks.inItemOrder

theorem Registry.RefusesTitle.refusal? (refuses : registry.RefusesTitle question location title) :
    registry.refusal? (.question location) .item question.title = some (location, title) := by
  rw [refuses.titled]
  simp [Registry.refusal?, Entity.location?, refuses.strict, refuses.legible, refuses.taken]

theorem Registry.refusesTitle_of_refusal? {place : Location}
    (unbound : registry.lookup (.question location) = none)
    (refused : registry.refusal? (.question location) .item question.title = some (place, title)) :
    registry.RefusesTitle question location title ∧ place = location := by
  cases titled : question.title with
  | none =>
      rw [titled] at refused
      cases refused
  | some text =>
      rw [titled] at refused
      simp only [Registry.refusal?, Entity.location?] at refused
      split at refused
      · rename_i met
        cases refused
        obtain ⟨⟨strict, legible⟩, taken⟩ := by
          simpa only [Bool.and_eq_true, bne_iff_ne, List.contains_iff_mem] using met
        exact ⟨⟨titled, strict, unbound, legible, taken⟩, rfl⟩
      · cases refused

/-- The call for the item of a question fails exactly if its title is refused. -/
theorem issueFor_title_error :
    issueFor (.question location) .item question.title registry = .error problem after ↔
      ∃ title, registry.RefusesTitle question location title ∧
        problem = .duplicateHint location .item title ∧ after = registry := by
  rcases issueFor_cases (.question location) .item question.title registry with
    ⟨identifier, known, result⟩ | ⟨unbound, place, text, refused, result⟩ | ⟨_, fine, result⟩
  · rw [result]
    simp only [reduceCtorEq, false_iff, not_exists, not_and]
    intro title refuses
    rw [refuses.unbound] at known
    cases known
  · obtain ⟨refuses, rfl⟩ := Registry.refusesTitle_of_refusal? unbound refused
    rw [result]
    constructor
    · intro failed
      cases failed
      exact ⟨text, refuses, rfl, rfl⟩
    · rintro ⟨title, other, rfl, rfl⟩
      rw [Option.some.inj (other.titled.symm.trans refuses.titled)]
  · rw [result]
    simp only [reduceCtorEq, false_iff, not_exists, not_and]
    intro title refuses
    rw [refuses.refusal?] at fine
    cases fine

theorem isSome_present? {body : Option String} :
    (Text.present? body).isSome = true ↔ HasText body := by
  rw [Text.present?, Option.isSome_filter]
  cases body with
  | none => simp [HasText]
  | some text => simp [HasText]

theorem isSome_present?_filter {body : Option String} {scored : Bool} :
    ((Text.present? body).filter fun _ => scored).isSome = true ↔ HasText body ∧ scored = true := by
  cases scored with
  | false => simp
  | true => simp [isSome_present?]

theorem ItemIdentifiers.BoundIn.issuedFor (bound : identifiers.BoundIn question location registry) :
    identifiers.IssuedFor question location registry where
  choices := bound.choices
  general := by
    rw [bound.blocks.general.present]
    exact isSome_present?
  correct := by
    rw [bound.blocks.correct.present]
    exact isSome_present?_filter
  incorrect := by
    rw [bound.blocks.incorrect.present]
    exact isSome_present?_filter
  onChoices := by
    have present : List.Forall₂ (fun body block => block.isSome = body.isSome)
        question.feedbackBodies.choices identifiers.blocks.choices := by
      rw [← List.zipIdx_map_fst 0 question.feedbackBodies.choices]
      exact List.forall₂_map_left_iff.mpr
        (bound.blocks.choices.imp fun _ _ holds => holds.present)
    refine (List.forall₂_map_left_iff.mp present).imp fun choice block same => ?_
    rw [same]
    exact isSome_present?
  feedback := bound.feedback_isSome_iff

/-- The identifiers of a question are refused exactly for its title, which leaves the registry as
it was, and so never without strictness; what is issued is what the parts of the question need. -/
theorem question_is_refused_or_fully_issued (registry : Registry)
    (question : Question) (location : Location) :
    (∀ problem after, issueItemIdentifiers question location registry = .error problem after ↔
      ∃ title, registry.RefusesTitle question location title ∧
        problem = .duplicateHint location .item title ∧ after = registry) ∧
    (registry.strict = false →
      ∃ identifiers after,
        issueItemIdentifiers question location registry = .ok identifiers after) ∧
    ∀ identifiers after, issueItemIdentifiers question location registry = .ok identifiers after →
      identifiers.IssuedFor question location after := by
  refine ⟨fun problem after => ?_, fun lenient => ?_, fun identifiers after ran => ?_⟩
  · rw [issueItemIdentifiers_eq, Issuing.bind_error_of_sure (issueParts_sure question location)]
    exact issueFor_title_error
  · obtain ⟨identifiers, after, ran, _⟩ :=
      issueItemIdentifiers_lenient question location registry lenient
    exact ⟨identifiers, after, ran⟩
  · exact (issueItemIdentifiers_ok ran).issuedFor

def mercury : Question :=
  ⟨some "Mercury", "<p>How long is a day?</p>", 1.0, .essay,
    ⟨some "<p>Longer than a year.</p>", some "<p>Right.</p>", none⟩, []⟩

/-- A strict registry in which another question has the title. -/
def withMercury : Registry :=
  ((Registry.empty "" true).answer (.issueFor (.question (.top 0)) .item (some "Mercury"))).2

theorem second_mercury_is_refused :
    issueItemIdentifiers mercury (.top 1) withMercury =
      .error (.duplicateHint (.top 1) .item "Mercury") withMercury :=
  ((question_is_refused_or_fully_issued withMercury mercury (.top 1)).1
    _ _).mpr ⟨"Mercury", ⟨rfl, by decide +kernel, by decide +kernel, by decide +kernel,
      by decide +kernel⟩, rfl, rfl⟩

end QuizPackage
