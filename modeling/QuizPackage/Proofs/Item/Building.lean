import QuizPackage.Item.Building
import QuizPackage.Proofs.Processing.Scoring
import QuizPackage.Proofs.Quiz.Validity
import QuizPackage.Proofs.Text.Ascending

namespace QuizPackage

variable {registry after : Registry} {question : Question} {region : TextRegion}
  {location : Location} {shuffle : Bool} {identifiers : ItemIdentifiers} {item : Item}

theorem Question.item_variables (question : Question) (identifiers : ItemIdentifiers)
    (location : Location) (shuffle : Bool) :
    (question.item identifiers (question.synthesis identifiers) location shuffle).variables =
      identifiers.variables := by
  have feedback : (identifiers.feedback.toList.map feedbackOutcome).map
      OutcomeDeclaration.identifier = identifiers.feedback.toList := by
    cases identifiers.feedback <;> rfl
  simp [Item.variables, Question.item, Question.synthesis, Declarations.identifiers,
    Question.outcomes, scoreOutcome, ItemIdentifiers.variables,
    QuestionKind.declaredResponse_identifier, feedback]

theorem Question.interaction_response (question : Question) (identifiers : ItemIdentifiers)
    (shuffle : Bool) :
    (question.interaction identifiers shuffle).response = identifiers.response := by
  unfold Question.interaction
  cases question.kind <;> rfl

/-- The choices offered are those of the question, each with the identifier at its place. -/
theorem Question.interaction_choices (question : Question) (identifiers : ItemIdentifiers)
    (shuffle : Bool) :
    (question.interaction identifiers shuffle).choices =
      (question.kind.choices.zip identifiers.choices).map fun (choice, identifier) =>
        ⟨identifier, linkAssets question.assets choice.text⟩ := by
  unfold Question.interaction
  cases question.kind <;> rfl

/-- An item offers one choice for each identifier issued. -/
theorem Question.item_choices (counted : identifiers.choices.length = question.kind.choices.length) :
    (question.item identifiers (question.synthesis identifiers) location
      shuffle).choices.map SimpleChoice.identifier = identifiers.choices := by
  simp only [Item.choices, Item.interaction?, Question.item, Option.toList_some,
    List.flatMap_singleton, Question.interaction_choices, List.map_map]
  exact List.map_snd_zip (Nat.le_of_eq counted)

theorem FeedbackParts.isEmpty_eq_all {α : Type} (parts : FeedbackParts α) :
    parts.isEmpty = parts.inItemOrder.all Option.isNone := by
  simp only [FeedbackParts.isEmpty, FeedbackParts.inItemOrder, List.cons_append, List.all_cons,
    List.all_append, List.all_nil, Bool.and_true]
  ac_rfl

/-- There is an outcome for feedback exactly if there is a block to show. -/
theorem ItemIdentifiers.BoundIn.feedback_isSome_iff {issued : ItemIdentifiers}
    (bound : issued.BoundIn question location registry) :
    issued.feedback.isSome = true ↔ ∃ block, some block ∈ issued.blocks.inItemOrder := by
  rw [← Option.not_isNone, bound.feedback, FeedbackParts.isEmpty_eq_all, Bool.not_eq_true',
    List.all_eq_false]
  constructor
  · rintro ⟨part, member, present⟩
    rw [Option.isNone_iff_eq_none, ← ne_eq, Option.ne_none_iff_exists'] at present
    obtain ⟨block, rfl⟩ := present
    exact ⟨block, member⟩
  · rintro ⟨block, member⟩
    exact ⟨some block, member, by simp⟩

theorem Question.mem_feedbackBlocks {block : FeedbackBlock}
    (member : block ∈ question.feedbackBlocks identifiers) :
    some block.outcome = identifiers.feedback ∧
      some block.identifier ∈ identifiers.blocks.inItemOrder := by
  unfold Question.feedbackBlocks at member
  split at member
  · cases member
  · rename_i outcome present
    obtain ⟨⟨identifier, body⟩, paired, made⟩ := List.mem_filterMap.mp member
    split at made
    · rename_i equal
      cases made
      cases equal
      exact ⟨present.symm, (List.of_mem_zip paired).1⟩
    · cases made

theorem Question.item_fault? (question : Question) (identifiers : ItemIdentifiers)
    (location : Location) (shuffle : Bool) :
    (question.item identifiers (question.synthesis identifiers) location shuffle).fault? = none := by
  have named := question.item_variables identifiers location shuffle
  have declared : (question.item identifiers (question.synthesis identifiers) location
      shuffle).undeclaredResponse? = none := by
    simp [Item.undeclaredResponse?, Question.item, Item.interaction?, Question.synthesis,
      QuestionKind.declaredResponse_identifier, Question.interaction_response]
  have known : (question.synthesis identifiers).variables.find?
      (fun name => !identifiers.variables.contains name) = none := by
    rw [List.find?_eq_none]
    intro name member
    have inside := question.rules_variables identifiers (Text.mem_ascending.mp member)
    simpa using inside
  have shown : (question.feedbackBlocks identifiers).find?
      (fun block => !identifiers.variables.contains block.outcome) = none := by
    rw [List.find?_eq_none]
    intro block member
    have outcome := (Question.mem_feedbackBlocks member).1
    simp [ItemIdentifiers.variables, ← outcome]
  simp only [Item.fault?, declared, named]
  simp only [Question.item, known, shown, Option.map_none]

theorem TextRegion.item_fault? (region : TextRegion) (identifier score : Identifier) :
    (region.item identifier score).fault? = none := rfl

/-- Why no item comes of a question. What keeps it from being scored comes before the names of its
assets. -/
def Question.problem? (question : Question) (location : Location) : Option Problem :=
  question.fault?.map (.invalidQuestion location) <|>
    (improperAssetName? question.assets).map .integrity

theorem Question.problem?_eq_none_iff :
    question.problem? location = none ↔
      question.Scorable ∧ improperAssetName? question.assets = none := by
  rw [← Question.fault?_eq_none_iff, Question.problem?]
  cases question.fault? <;> simp

/-- With an identifier for each choice, the number of choices is never what stops a synthesis. -/
theorem synthesize_eq (counted : identifiers.choices.length = question.kind.choices.length)
    (location : Location) :
    synthesize question identifiers location =
      match question.fault? with
      | some fault => .error (.invalidQuestion location fault)
      | none => .ok (question.synthesis identifiers) := by
  unfold synthesize Question.fault?
  cases pointsFault? question.points with
  | some fault => rfl
  | none =>
      simp only [counted, bne_self_eq_false, Bool.and_false, Bool.false_eq_true, if_false]
      cases question.kind.fault? <;> rfl

/-- Without choices, only the question itself decides whether there is a synthesis. -/
theorem synthesize_ok_iff {synthesis : Synthesis} (choiceless : question.kind.choices = []) :
    synthesize question identifiers location = .ok synthesis ↔
      question.Scorable ∧ synthesis = question.synthesis identifiers := by
  rw [← Question.fault?_eq_none_iff]
  unfold synthesize Question.fault?
  cases pointsFault? question.points with
  | some fault => simp
  | none =>
      simp only [choiceless, List.length_nil, bne_self_eq_false, Bool.false_and,
        Bool.false_eq_true, if_false]
      cases question.kind.fault? with
      | some fault => simp
      | none => simp [eq_comm]

theorem checkedItem_eq (names : List String) (fits : item.fault? = none) :
    checkedItem names item =
      Issuing.attempt ((improperAssetName? names).map .integrity) item := by
  unfold checkedItem
  rw [fits]
  cases improperAssetName? names <;> rfl

def Question.finish (question : Question) (identifiers : ItemIdentifiers) (location : Location)
    (shuffle : Bool) : Issuing Item :=
  match synthesize question identifiers location with
  | .error problem => Issuing.stop problem
  | .ok synthesis =>
      checkedItem question.assets (question.item identifiers synthesis location shuffle)

theorem buildItem_eq (question : Question) (location : Location) (shuffle : Bool) :
    buildItem question location shuffle =
      issueItemIdentifiers question location >>= fun identifiers =>
        question.finish identifiers location shuffle := rfl

/-- Once the identifiers are issued, only the question itself decides whether there is an item. -/
theorem Question.finish_eq (counted : identifiers.choices.length = question.kind.choices.length)
    (location : Location) (shuffle : Bool) :
    question.finish identifiers location shuffle =
      Issuing.attempt (question.problem? location)
        (question.item identifiers (question.synthesis identifiers) location shuffle) := by
  unfold Question.finish Question.problem?
  rw [synthesize_eq counted]
  cases question.fault? with
  | some fault => rfl
  | none => exact checkedItem_eq question.assets (question.item_fault? identifiers location shuffle)

/-- The item that is built for a question is made of the identifiers bound to it. -/
theorem buildItem_ok (ran : buildItem question location shuffle registry = .ok item after) :
    question.problem? location = none ∧ ∃ identifiers : ItemIdentifiers,
      identifiers.BoundIn question location after ∧
      item = question.item identifiers (question.synthesis identifiers) location shuffle := by
  rw [buildItem_eq] at ran
  obtain ⟨identifiers, middle, issued, ran⟩ := Issuing.bind_ok.mp ran
  have bound := issueItemIdentifiers_ok issued
  rw [Question.finish_eq bound.choices_length] at ran
  obtain ⟨fine, rfl, rfl⟩ := Issuing.attempt_ok.mp ran
  exact ⟨fine, identifiers, bound, rfl⟩

theorem checkedItem_within {permitted : Entity → Prop} (names : List String) (item : Item) :
    (checkedItem names item).Within permitted := by
  unfold checkedItem
  split
  · exact .stop _
  · split
    · exact .stop _
    · exact .pure _

theorem buildItem_within (question : Question) (location : Location) (shuffle : Bool) :
    (buildItem question location shuffle).Within (Entity.IsPartOf location) := by
  rw [buildItem_eq]
  refine (issueItemIdentifiers_within _ _).bind fun identifiers => ?_
  unfold Question.finish
  split
  · exact .stop _
  · exact checkedItem_within _ _

/-- Without strictness, a question fails to become an item only for a problem of its own. -/
theorem buildItem_verdict (lenient : registry.strict = false) (question : Question)
    (location : Location) (shuffle : Bool) :
    (buildItem question location shuffle).verdict registry = question.problem? location := by
  obtain ⟨identifiers, middle, issued, _⟩ :=
    issueItemIdentifiers_lenient question location registry lenient
  have counted := (issueItemIdentifiers_ok issued).choices_length
  rw [buildItem_eq, Issuing.verdict_bind_of_ok issued, Question.finish_eq counted]
  exact Issuing.attempt_verdict _ _

def TextRegion.problem? (region : TextRegion) : Option Problem :=
  (improperAssetName? region.assets).map .integrity

theorem buildTextItem_eq (region : TextRegion) (entry : Nat) :
    buildTextItem region entry = (do
      let identifier ← issueFor (.text entry) .textItem region.title
      let score ← issueVariable identifier "SCORE"
      Issuing.attempt region.problem? (region.item identifier score)) := by
  unfold buildTextItem
  refine bind_congr fun identifier => bind_congr fun score => ?_
  exact checkedItem_eq region.assets (region.item_fault? identifier score)

theorem buildTextItem_within (region : TextRegion) (entry : Nat) :
    (buildTextItem region entry).Within (Eq (.text entry)) := by
  rw [buildTextItem_eq]
  refine (issueFor_within _ _ _ rfl).bind fun identifier => ?_
  refine (issueVariable_within _ _).bind fun score => ?_
  exact Issuing.attempt_within _ _

theorem buildTextItem_ok {entry : Nat}
    (ran : buildTextItem region entry registry = .ok item after) :
    region.problem? = none ∧ ∃ identifier score : Identifier,
      after.lookup (.text entry) = some identifier ∧
      after.isVariableOf identifier score = true ∧ item = region.item identifier score := by
  rw [buildTextItem_eq] at ran
  obtain ⟨identifier, first, one, ran⟩ := Issuing.bind_ok.mp ran
  obtain ⟨score, second, two, ran⟩ := Issuing.bind_ok.mp ran
  obtain ⟨fine, rfl, rfl⟩ := Issuing.attempt_ok.mp ran
  have kept : first.Reaches (Eq (.text entry)) after := (issueVariable_within _ _).reaches two
  exact ⟨fine, identifier, score, kept.lookup_eq_some (issueFor_ok one),
    (issueVariable_ok two).2, rfl⟩

theorem buildTextItem_verdict (lenient : registry.strict = false) (region : TextRegion)
    (entry : Nat) : (buildTextItem region entry).verdict registry = region.problem? := by
  obtain ⟨identifier, first, issued, still⟩ :=
    issueFor_lenient (.text entry) .textItem region.title registry lenient
  obtain ⟨score, second, named, _⟩ := issueVariable_lenient identifier "SCORE" first still
  rw [buildTextItem_eq, Issuing.verdict_bind_of_ok issued, Issuing.verdict_bind_of_ok named]
  exact Issuing.attempt_verdict _ _

end QuizPackage
