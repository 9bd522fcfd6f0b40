import QuizPackage.Proofs.Package.Accounting

/-!
# Items that hold together

What the parts of a built item refer to is there: its rules name declared variables, offered choices
and blocks that it has, and all identifiers were issued for it. So the check of an item never fails,
whatever was built before at its location.
-/

namespace QuizPackage

/-- Everything that an item refers to is there, and nothing in it is named twice. -/
structure Item.Coherent (item : Item) (registry : Registry) : Prop where
  response : ∃ interaction declaration, item.interaction? = some interaction ∧
    item.synthesis.declarations.response = some declaration ∧
    interaction.response = declaration.identifier
  declared : item.synthesis.variables ⊆ item.variables
  distinct : (item.identifier :: item.choices.map SimpleChoice.identifier ++
    item.feedback.map FeedbackBlock.identifier).Nodup
  literals : item.synthesis.identifierValues ⊆
    (item.choices.map SimpleChoice.identifier ++
      item.feedback.map FeedbackBlock.identifier).map Identifier.text
  correct : ∀ declaration ∈ item.synthesis.declarations.response,
    declaration.baseType = .identifier →
      declaration.correct ⊆ item.choices.map fun choice => choice.identifier.text
  outcomes : ∀ block ∈ item.feedback, ∃ declaration,
    item.synthesis.declarations.outcome? .feedback = some declaration ∧
    block.outcome = declaration.identifier
  issued : ∀ name ∈ item.references, registry.isIssuedFor item.identifier name = true
  fits : item.fault? = none

/-- Some step before refused the title of an entity at a location. -/
def Problem.RefusesAt (location : Location) (problem : Problem) : Prop :=
  ∃ kind title, problem = .duplicateHint location kind title

/-- A step reports problems of one sort only. -/
def Issuing.Reports {α : Type} (sort : Problem → Prop) (step : Issuing α) : Prop :=
  ∀ registry, ∀ problem ∈ step.verdict registry, sort problem

variable {α β : Type} {registry after : Registry} {location : Location} {question : Question}
  {identifiers : ItemIdentifiers} {sort : Problem → Prop}

theorem identifierValuesOfAll_eq (operands : List Expr) :
    identifierValuesOfAll operands = operands.flatMap Expr.identifierValues := by
  induction operands with
  | nil => rfl
  | cons operand rest ih => rw [identifierValuesOfAll, ih, List.flatMap_cons]

theorem identifierValuesOfRules_eq (rules : List Rule) :
    identifierValuesOfRules rules = rules.flatMap Rule.identifierValues := by
  induction rules with
  | nil => rfl
  | cons rule rest ih => rw [identifierValuesOfRules, ih, List.flatMap_cons]

theorem isRightlyTaken_identifierValues (response : Identifier) (choice : Choice)
    (identifier : Identifier) :
    (isRightlyTaken response choice identifier).identifierValues = [identifier.text] := by
  unfold isRightlyTaken
  split <;> rfl

/-- A condition names choices only. -/
theorem QuestionKind.condition_identifierValues {kind : QuestionKind} {condition : Expr}
    (decided : kind.condition? identifiers = some condition) :
    condition.identifierValues ⊆ identifiers.choices.map Identifier.text := by
  cases kind with
  | singleChoice choices | trueFalse choices =>
      obtain ⟨choice, first, rfl⟩ := Option.map_eq_some_iff.mp decided
      obtain ⟨_, paired, _⟩ := mem_correctChoices.mp (List.mem_of_head? first)
      simpa [isChoice, Expr.identifierValues, Expr.identifier] using
        ⟨choice, (List.of_mem_zip paired).2, rfl⟩
  | multipleAnswer choices =>
      cases decided
      intro value member
      rw [Expr.identifierValues, identifierValuesOfAll_eq, List.mem_flatMap] at member
      obtain ⟨operand, listed, named⟩ := member
      obtain ⟨pair, paired, rfl⟩ := List.mem_map.mp listed
      rw [isRightlyTaken_identifierValues, List.mem_singleton] at named
      exact List.mem_map.mpr ⟨pair.2, (List.of_mem_zip paired).2, named.symm⟩
  | shortAnswer answers =>
      cases decided
      intro value member
      rw [Expr.identifierValues, identifierValuesOfAll_eq, List.mem_flatMap] at member
      obtain ⟨operand, listed, named⟩ := member
      obtain ⟨answer, _, rfl⟩ := List.mem_map.mp listed
      cases named
  | numerical answers =>
      cases decided
      intro value member
      rw [Expr.identifierValues, identifierValuesOfAll_eq, List.mem_flatMap] at member
      obtain ⟨operand, listed, named⟩ := member
      obtain ⟨answer, _, rfl⟩ := List.mem_map.mp listed
      cases named
  | essay => cases decided
  | fileUpload => cases decided

theorem ItemIdentifiers.shown_identifierValues (identifiers : ItemIdentifiers)
    (block : Option Identifier) :
    identifierValuesOfRules (identifiers.shown block) ⊆ block.toList.map Identifier.text := by
  unfold ItemIdentifiers.shown
  split
  · simp [identifierValuesOfRules, Rule.identifierValues, Expr.identifierValues,
      identifierValuesOfAll, Expr.identifier]
  · simp [identifierValuesOfRules]

theorem QuestionKind.choiceRules_identifierValues (kind : QuestionKind)
    (identifiers : ItemIdentifiers) (choice : Identifier) (block : Option Identifier) :
    identifierValuesOfRules (kind.choiceRules identifiers choice block) ⊆
      (choice :: block.toList).map Identifier.text := by
  have shown := identifiers.shown_identifierValues block
  unfold QuestionKind.choiceRules
  dsimp only
  split
  · simp [identifierValuesOfRules]
  · intro value member
    simp only [identifierValuesOfRules, Rule.identifierValues, identifierValuesOfBranches,
      Branch.identifierValues, List.append_nil, List.mem_append] at member
    rw [List.map_cons, List.mem_cons]
    rcases member with taken | assigned
    · refine .inl ?_
      split at taken <;>
        simpa [isChoice, hasChoice, Expr.identifierValues, Expr.identifier] using taken
    · exact .inr (shown assigned)

theorem Question.scoringRules_identifierValues (question : Question)
    (identifiers : ItemIdentifiers) :
    identifierValuesOfRules (question.scoringRules identifiers) ⊆
      (identifiers.choices ++ (identifiers.blocks.correct.toList ++
        identifiers.blocks.incorrect.toList)).map Identifier.text := by
  have shown := identifiers.shown_identifierValues
  unfold Question.scoringRules
  split
  · simp [identifierValuesOfRules]
  · rename_i condition decided
    intro value member
    simp only [identifierValuesOfRules, Rule.identifierValues, identifierValuesOfBranches,
      Branch.identifierValues, Expr.number, Expr.identifierValues, List.append_nil,
      List.nil_append, List.mem_append] at member
    simp only [List.map_append, List.mem_append]
    rcases member with (named | right) | wrong
    · exact .inl (QuestionKind.condition_identifierValues decided named)
    · exact .inr (.inl (shown _ right))
    · exact .inr (.inr (shown _ wrong))

theorem Question.feedbackRules_identifierValues (question : Question)
    (identifiers : ItemIdentifiers) :
    identifierValuesOfRules (question.feedbackRules identifiers) ⊆
      (identifiers.choices ++ (identifiers.blocks.choices.filterMap id ++
        identifiers.blocks.general.toList)).map Identifier.text := by
  intro value member
  rw [Question.feedbackRules, identifierValuesOfRules_eq, List.flatMap_append, List.mem_append]
    at member
  simp only [List.map_append, List.mem_append]
  rcases member with chosen | general
  · rw [List.flatMap_assoc, List.mem_flatMap] at chosen
    obtain ⟨⟨choice, block⟩, paired, inside⟩ := chosen
    rw [← identifierValuesOfRules_eq] at inside
    obtain ⟨named, among, rfl⟩ := List.mem_map.mp
      (question.kind.choiceRules_identifierValues identifiers choice block inside)
    obtain ⟨offered, held⟩ := List.of_mem_zip paired
    rcases List.mem_cons.mp among with rfl | shown
    · exact .inl (List.mem_map_of_mem offered)
    · rw [Option.mem_toList] at shown
      exact .inr (.inl (List.mem_map_of_mem (List.mem_filterMap.mpr ⟨block, held, shown⟩)))
  · rw [← identifierValuesOfRules_eq] at general
    exact .inr (.inr (identifiers.shown_identifierValues _ general))

/-- The rules of a question name its choices and its feedback blocks only. -/
theorem Question.rules_identifierValues (question : Question) (identifiers : ItemIdentifiers) :
    identifierValuesOfRules (question.rules identifiers) ⊆
      (identifiers.choices ++ identifiers.blocks.inItemOrder.filterMap id).map Identifier.text := by
  intro value member
  rw [Question.rules_eq, identifierValuesOfRules_eq, List.flatMap_append, List.mem_append,
    ← identifierValuesOfRules_eq, ← identifierValuesOfRules_eq] at member
  have scoring := question.scoringRules_identifierValues identifiers (a := value)
  have feedback := question.feedbackRules_identifierValues identifiers (a := value)
  simp only [List.map_append, List.mem_append, List.mem_map, Option.mem_toList,
    List.mem_filterMap, id_eq, exists_eq_right, FeedbackParts.inItemOrder, List.cons_append,
    List.mem_cons, List.not_mem_nil, or_false] at scoring feedback ⊢
  grind

/-- The declared correct values of a response that is an identifier are offered choices. -/
theorem QuestionKind.declaredResponse_correct (kind : QuestionKind)
    (identifiers : ItemIdentifiers)
    (named : (kind.declaredResponse identifiers).baseType = .identifier) :
    (kind.declaredResponse identifiers).correct ⊆ identifiers.choices.map Identifier.text := by
  have offered (choices : List Choice) :
      (correctChoices choices identifiers.choices).map Identifier.text ⊆
        identifiers.choices.map Identifier.text := by
    refine List.map_subset _ fun identifier member => ?_
    obtain ⟨_, paired, _⟩ := mem_correctChoices.mp member
    exact (List.of_mem_zip paired).2
  cases kind with
  | singleChoice choices | trueFalse choices | multipleAnswer choices => exact offered choices
  | shortAnswer answers | numerical answers => cases named
  | essay | fileUpload => cases named

/-- What is issued for a question is bound to its parts, and so has no repetitions. -/
theorem ItemIdentifiers.BoundIn.issued_nodup
    (bound : identifiers.BoundIn question location registry) (sound : registry.Sound) :
    identifiers.issued.Nodup := by
  have choices := bound.choices_nodup sound
  have slots := bound.slottedBodies.slots
  have blocks := sound.lookups_nodup (fun _ _ equal => (Entity.feedback.inj equal).2) slots
    question.feedbackSlots_nodup
  have chosen : ∀ choice ∈ identifiers.choices, ∃ index,
      registry.lookup (.choice location index) = some choice := fun choice member =>
    let ⟨index, _, known⟩ := exists_of_forall₂_right bound.choices member
    ⟨index, known⟩
  have shown : ∀ block ∈ identifiers.blocks.inItemOrder.filterMap id, ∃ slot,
      registry.lookup (.feedback location slot) = some block := fun block member =>
    let ⟨slot, _, known⟩ := exists_of_forall₂_right slots member
    ⟨slot, known⟩
  rw [ItemIdentifiers.issued, List.cons_append, List.nodup_cons, List.nodup_append,
    List.mem_append]
  refine ⟨?_, choices, blocks, ?_⟩
  · rintro (choice | block)
    · obtain ⟨index, known⟩ := chosen _ choice
      cases sound.lookup_injective bound.item known
    · obtain ⟨slot, known⟩ := shown _ block
      cases sound.lookup_injective bound.item known
  · rintro choice offered _ block rfl
    obtain ⟨index, known⟩ := chosen choice offered
    obtain ⟨slot, again⟩ := shown choice block
    cases sound.lookup_injective known again

/-- An item made of the identifiers bound to its question is coherent. -/
theorem ItemIdentifiers.BoundIn.coherent (bound : identifiers.BoundIn question location registry)
    (sound : registry.Sound) (shuffle : Bool) :
    (question.item identifiers (question.synthesis identifiers) location shuffle).Coherent
      registry := by
  have offered : (question.item identifiers (question.synthesis identifiers) location
      shuffle).choices.map SimpleChoice.identifier = identifiers.choices :=
    Question.item_choices bound.choices_length
  have blocks : (question.item identifiers (question.synthesis identifiers) location
      shuffle).feedback.map FeedbackBlock.identifier =
        identifiers.blocks.inItemOrder.filterMap id := Question.feedbackBlocks_identifiers bound
  exact {
    response := ⟨question.interaction identifiers shuffle,
      question.kind.declaredResponse identifiers, rfl, rfl,
      (question.interaction_response identifiers shuffle).trans
        (question.kind.declaredResponse_identifier identifiers).symm⟩
    declared := by
      intro name member
      rw [Question.item_variables]
      exact question.rules_variables identifiers (Text.mem_ascending.mp member)
    distinct := by
      rw [offered, blocks]
      exact bound.issued_nodup sound
    literals := by
      intro value member
      rw [offered, blocks]
      exact question.rules_identifierValues identifiers (Text.mem_ascending.mp member)
    correct := by
      rintro declaration ⟨⟩ named
      rw [← Function.comp_def Identifier.text, ← List.map_map, offered]
      exact question.kind.declaredResponse_correct identifiers named
    outcomes := by
      intro block member
      have held := (Question.mem_feedbackBlocks member).1
      refine ⟨feedbackOutcome block.outcome, ?_, rfl⟩
      simp [Question.item, Question.synthesis, Declarations.outcome?, Question.outcomes,
        scoreOutcome, feedbackOutcome, ← held]
    issued := fun name member => bound.issued sound shuffle member
    fits := question.item_fault? identifiers location shuffle }

theorem Issuing.Reports.pure (value : α) : Issuing.Reports sort (pure value) :=
  fun _ _ impossible => nomatch impossible

theorem Issuing.Reports.bind {step : Issuing α} {next : α → Issuing β} (first : step.Reports sort)
    (second : ∀ value, (next value).Reports sort) : (step >>= next).Reports sort := by
  intro registry problem member
  rw [Issuing.verdict_bind] at member
  cases ran : step registry with
  | ok value after =>
      rw [ran] at member
      exact second value after problem member
  | error early after =>
      rw [ran] at member
      cases member
      exact first registry problem (Issuing.verdict_eq_some.mpr ⟨after, ran⟩)

theorem Issuing.Reports.map {step : Issuing α} (convert : α → β) (reports : step.Reports sort) :
    (convert <$> step).Reports sort := by
  intro registry problem member
  rw [Issuing.verdict_map] at member
  exact reports registry problem member

theorem Issuing.Reports.mapM {step : α → Issuing β} (values : List α)
    (reports : ∀ value, (step value).Reports sort) : (values.mapM step).Reports sort := by
  induction values with
  | nil => exact .pure []
  | cons value rest ih =>
      rw [List.mapM_cons]
      exact (reports value).bind fun first => ih.bind fun others => .pure _

/-- A call for a part of a quiz entry is refused at this entry, or not at all. -/
theorem issueFor_reports (entity : Entity) (located : entity.location? = some location)
    (kind : IdentifierKind) (hint : Option String) :
    (issueFor entity kind hint).Reports (Problem.RefusesAt location) := by
  intro registry problem member
  unfold Issuing.verdict at member
  rcases issueFor_cases entity kind hint registry with
    ⟨_, _, result⟩ | ⟨_, place, title, refused, result⟩ | ⟨_, _, result⟩
  · rw [result] at member
    cases member
  · rw [result] at member
    cases member
    unfold Registry.refusal? at refused
    rw [located] at refused
    cases hint with
    | none => cases refused
    | some given =>
        dsimp only at refused
        split at refused
        · cases refused
          exact ⟨kind, _, rfl⟩
        · cases refused
  · rw [result] at member
    cases member

theorem issueVariable_reports (owner : Identifier) (name : String) :
    (issueVariable owner name).Reports sort :=
  fun _ _ impossible => nomatch impossible

theorem issueBlock_reports (location : Location) (slot : FeedbackSlot) (body : Option String) :
    (issueBlock location slot body).Reports (Problem.RefusesAt location) := by
  cases body with
  | none => exact .pure none
  | some body =>
      exact (issueFor_reports (.feedback location slot) rfl _ _).map some

theorem issueBlocks_reports (location : Location) (bodies : FeedbackParts String) :
    (issueBlocks location bodies).Reports (Problem.RefusesAt location) := by
  refine (issueBlock_reports _ _ _).bind fun general => ?_
  refine (issueBlock_reports _ _ _).bind fun correct => ?_
  refine (issueBlock_reports _ _ _).bind fun incorrect => ?_
  refine (Issuing.Reports.mapM _ fun indexed => issueBlock_reports _ _ _).bind fun choices => ?_
  exact .pure _

theorem issueFeedback_reports (item : Identifier) (blocks : FeedbackParts Identifier) :
    (issueFeedback item blocks).Reports sort := by
  unfold issueFeedback
  split
  · exact .pure none
  · exact (issueVariable_reports _ _).map some

/-- Only a refused title keeps the identifiers of a question from being issued. -/
theorem issueItemIdentifiers_reports (question : Question) (location : Location) :
    (issueItemIdentifiers question location).Reports (Problem.RefusesAt location) := by
  rw [issueItemIdentifiers_eq]
  refine (issueFor_reports (.question location) rfl _ _).bind fun item => ?_
  refine (issueVariable_reports _ _).bind fun response => ?_
  refine (issueVariable_reports _ _).bind fun score => ?_
  refine (Issuing.Reports.mapM _ fun index =>
    issueFor_reports (.choice location index) rfl _ _).bind fun choices => ?_
  refine (issueBlocks_reports _ _).bind fun blocks => ?_
  refine (issueFeedback_reports _ _).bind fun feedback => ?_
  exact .pure _

/-- No item comes of a question only if its title is refused or for a problem of its own. -/
theorem buildItem_reports (question : Question) (location : Location) (shuffle : Bool) :
    (buildItem question location shuffle).Reports fun problem =>
      problem.RefusesAt location ∨ question.problem? location = some problem := by
  intro registry problem member
  rw [buildItem_eq, Issuing.verdict_bind] at member
  cases issued : issueItemIdentifiers question location registry with
  | error early after =>
      rw [issued] at member
      cases member
      exact .inl (issueItemIdentifiers_reports question location registry problem
        (Issuing.verdict_eq_some.mpr ⟨after, issued⟩))
  | ok identifiers after =>
      rw [issued] at member
      dsimp only at member
      have counted := (issueItemIdentifiers_ok issued).choices_length
      rw [Question.finish_eq counted, Issuing.attempt_verdict] at member
      exact .inr member

/-- An item is at fault by itself only for the name of an asset. -/
theorem Question.problem?_integrity {fault : IntegrityFault}
    (found : question.problem? location = some (.integrity fault)) :
    ∃ name ∈ question.assets, fault = .improperAssetName name := by
  unfold Question.problem? at found
  cases judged : question.fault? with
  | some own =>
      rw [judged] at found
      cases found
  | none =>
      rw [judged] at found
      obtain ⟨improper, named, same⟩ := Option.map_eq_some_iff.mp found
      cases same
      obtain ⟨name, first, rfl⟩ := Option.map_eq_some_iff.mp named
      exact ⟨name, List.mem_of_find?_eq_some first, rfl⟩

/-- Every item that is built holds together, and no item is refused because it does not: the only
fault that a question is refused for is the name of an asset. The registry that is left, whether or
not there is an item, is reachable again, so the same holds of the next item at the location. -/
theorem built_item_holds_together (reachable : registry.Reachable) (question : Question)
    (location : Location) (shuffle : Bool) :
    (∀ item after, buildItem question location shuffle registry = .ok item after →
      item.Coherent after) ∧
    (∀ fault after, buildItem question location shuffle registry = .error (.integrity fault) after →
      ∃ name ∈ question.assets, fault = .improperAssetName name) ∧
    ((buildItem question location shuffle).finish registry).Reachable := by
  have within := buildItem_within question location shuffle
  refine ⟨fun item after ran => ?_, fun fault after failed => ?_, ?_⟩
  · obtain ⟨_, identifiers, bound, rfl⟩ := buildItem_ok ran
    exact bound.coherent ((within.reaches ran).sound reachable.sound) shuffle
  · have reported := Issuing.verdict_eq_some.mpr ⟨after, failed⟩
    rcases buildItem_reports question location shuffle registry _ reported with
      ⟨kind, title, impossible⟩ | own
    · cases impossible
    · exact Question.problem?_integrity own
  · exact reachable.reaches (within registry)

def foghorn : Question :=
  { title := some "Foghorn"
    prompt := "<p>What does it tell?</p>"
    points := 2.0
    kind := .multipleAnswer [
      ⟨"", "Rocks", true, some "It warns"⟩,
      ⟨"", "Whales", false, none⟩,
      ⟨"", "Ports", true, some "It guides"⟩]
    feedback := ⟨some "Signals", none, some "Look again"⟩
    assets := [] }

/-- Another question in the place of the foghorn. -/
def beacon : Question :=
  { title := some "Beacon"
    prompt := "<p>Who lights it?</p>"
    points := 1.0
    kind := .singleChoice [⟨"", "A keeper", true, none⟩, ⟨"", "A gull", false, some "No"⟩]
    feedback := ⟨none, some "Yes", none⟩
    assets := [] }

/-- A place that is built twice, on a strict registry. -/
theorem foghorn_holds_together_after_beacon :
    ∃ earlier middle item after,
      buildItem beacon (.top 0) false (Registry.empty "coast" true) = .ok earlier middle ∧
      buildItem foghorn (.top 0) true middle = .ok item after ∧
      item.synthesis.variables = [⟨"FEEDBACK_2"⟩, ⟨"RESPONSE_2"⟩, ⟨"SCORE_2"⟩] ∧
      item.Coherent after := by
  have computed : (match buildItem beacon (.top 0) false (Registry.empty "coast" true) with
      | .ok _ middle =>
          match buildItem foghorn (.top 0) true middle with
          | .ok item _ => item.synthesis.variables
          | .error _ _ => []
      | .error _ _ => []) = [⟨"FEEDBACK_2"⟩, ⟨"RESPONSE_2"⟩, ⟨"SCORE_2"⟩] := by
    decide +kernel
  have start := Registry.empty_reachable "coast" true
  cases first : buildItem beacon (.top 0) false (Registry.empty "coast" true) with
  | error problem middle =>
      rw [first] at computed
      cases computed
  | ok earlier middle =>
      rw [first] at computed
      dsimp only at computed
      cases second : buildItem foghorn (.top 0) true middle with
      | error problem after =>
          rw [second] at computed
          cases computed
      | ok item after =>
          rw [second] at computed
          have reached := (built_item_holds_together start beacon (.top 0) false).2.2
          rw [Issuing.finish_of_ok first] at reached
          exact ⟨earlier, middle, item, after, rfl, second, computed,
            (built_item_holds_together reached foghorn (.top 0) true).1 item after second⟩

end QuizPackage
