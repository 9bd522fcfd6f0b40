import QuizPackage.Item.Building
import QuizPackage.Proofs.Text.Ascending
import Mathlib.Data.List.Basic

namespace QuizPackage

def FeedbackParts.map {α β : Type} (convert : α → β) (parts : FeedbackParts α) :
    FeedbackParts β :=
  { general := parts.general.map convert
    correct := parts.correct.map convert
    incorrect := parts.incorrect.map convert
    choices := parts.choices.map (Option.map convert) }

def ItemIdentifiers.rename (naming : Identifier → Identifier) (identifiers : ItemIdentifiers) :
    ItemIdentifiers :=
  { item := naming identifiers.item
    response := naming identifiers.response
    score := naming identifiers.score
    feedback := identifiers.feedback.map naming
    choices := identifiers.choices.map naming
    blocks := identifiers.blocks.map naming }

/-- A value with the identifier that it stands for renamed, if it stands for one. -/
def BaseType.rename (naming : Identifier → Identifier) (value : String) : BaseType → String
  | .identifier => (naming ⟨value⟩).text
  | .text | .number | .file => value

def Response.rename (naming : Identifier → Identifier) : Response → Response
  | .identifier value => .identifier (BaseType.identifier.rename naming value)
  | .identifiers values => .identifiers (values.map (BaseType.identifier.rename naming ·))
  | .empty => .empty
  | .text value => .text value
  | .number value => .number value

def ResponseDeclaration.rename (naming : Identifier → Identifier)
    (declaration : ResponseDeclaration) : ResponseDeclaration :=
  { declaration with
    identifier := naming declaration.identifier
    correct := declaration.correct.map (declaration.baseType.rename naming ·) }

def OutcomeDeclaration.rename (naming : Identifier → Identifier)
    (declaration : OutcomeDeclaration) : OutcomeDeclaration :=
  { declaration with
    identifier := naming declaration.identifier
    defaultValue := declaration.defaultValue.map (declaration.baseType.rename naming ·) }

def Declarations.rename (naming : Identifier → Identifier) (declarations : Declarations) :
    Declarations :=
  { response := declarations.response.map (ResponseDeclaration.rename naming)
    outcomes := declarations.outcomes.map (OutcomeDeclaration.rename naming) }

mutual

def Expr.rename (naming : Identifier → Identifier) : Expr → Expr
  | .read name => .read (naming name)
  | .literal baseType value => .literal baseType (baseType.rename naming value)
  | .multiple items => .multiple (renameAll naming items)
  | .matches left right => .matches (left.rename naming) (right.rename naming)
  | .member value container => .member (value.rename naming) (container.rename naming)
  | .textMatch caseSensitive left right =>
      .textMatch caseSensitive (left.rename naming) (right.rename naming)
  | .atLeast left right => .atLeast (left.rename naming) (right.rename naming)
  | .atMost left right => .atMost (left.rename naming) (right.rename naming)
  | .all operands => .all (renameAll naming operands)
  | .any operands => .any (renameAll naming operands)
  | .negation operand => .negation (operand.rename naming)
  | .isNull operand => .isNull (operand.rename naming)

def renameAll (naming : Identifier → Identifier) : List Expr → List Expr
  | [] => []
  | expression :: rest => expression.rename naming :: renameAll naming rest

end

mutual

def Rule.rename (naming : Identifier → Identifier) : Rule → Rule
  | .condition branches otherwise =>
      .condition (renameBranches naming branches) (renameRules naming otherwise)
  | .assign name value => .assign (naming name) (value.rename naming)

def Branch.rename (naming : Identifier → Identifier) : Branch → Branch
  | .mk condition rules => .mk (condition.rename naming) (renameRules naming rules)

def renameBranches (naming : Identifier → Identifier) : List Branch → List Branch
  | [] => []
  | branch :: rest => branch.rename naming :: renameBranches naming rest

def renameRules (naming : Identifier → Identifier) : List Rule → List Rule
  | [] => []
  | rule :: rest => rule.rename naming :: renameRules naming rest

end

def Synthesis.rename (naming : Identifier → Identifier) (synthesis : Synthesis) : Synthesis :=
  { declarations := synthesis.declarations.rename naming
    rules := renameRules naming synthesis.rules }

def SimpleChoice.rename (naming : Identifier → Identifier) (choice : SimpleChoice) :
    SimpleChoice :=
  { choice with identifier := naming choice.identifier }

def Interaction.rename (naming : Identifier → Identifier) : Interaction → Interaction
  | .choice response shuffle maxChoices choices =>
      .choice (naming response) shuffle maxChoices (choices.map (SimpleChoice.rename naming))
  | .textEntry response expectedLength => .textEntry (naming response) expectedLength
  | .extendedText response expectedLines => .extendedText (naming response) expectedLines
  | .upload response => .upload (naming response)

def ItemBody.rename (naming : Identifier → Identifier) : ItemBody → ItemBody
  | .question prompt interaction => .question prompt (interaction.rename naming)
  | .text title markup => .text title markup

def FeedbackBlock.rename (naming : Identifier → Identifier) (block : FeedbackBlock) :
    FeedbackBlock :=
  { block with
    identifier := naming block.identifier
    outcome := naming block.outcome }

def Item.rename (naming : Identifier → Identifier) (item : Item) : Item :=
  { item with
    identifier := naming item.identifier
    synthesis := item.synthesis.rename naming
    body := item.body.rename naming
    feedback := item.feedback.map (FeedbackBlock.rename naming)
    answerKey := item.answerKey.map (Response.rename naming) }

variable {naming first second : Identifier → Identifier} {identifiers : ItemIdentifiers}

@[simp]
theorem BaseType.rename_number (value : String) : BaseType.number.rename naming value = value :=
  rfl

@[simp]
theorem BaseType.rename_rename (baseType : BaseType) (value : String) :
    baseType.rename second (baseType.rename first value) =
      baseType.rename (second ∘ first) value := by
  cases baseType <;> rfl

theorem Response.rename_rename (response : Response) :
    (response.rename first).rename second = response.rename (second ∘ first) := by
  cases response <;> simp [Response.rename]

theorem Declarations.rename_rename (declarations : Declarations) :
    (declarations.rename first).rename second = declarations.rename (second ∘ first) := by
  have responses (declaration : ResponseDeclaration) :
      (declaration.rename first).rename second = declaration.rename (second ∘ first) := by
    simp [ResponseDeclaration.rename, Function.comp_def]
  have outcomes (declaration : OutcomeDeclaration) :
      (declaration.rename first).rename second = declaration.rename (second ∘ first) := by
    simp [OutcomeDeclaration.rename, Function.comp_def]
  simp [Declarations.rename, Function.comp_def, responses, outcomes]

mutual

theorem Expr.rename_rename (expression : Expr) :
    (expression.rename first).rename second = expression.rename (second ∘ first) := by
  cases expression with
  | read name => rfl
  | literal baseType value => simp only [Expr.rename, BaseType.rename_rename]
  | multiple items | all items | any items => simp only [Expr.rename, renameAll_renameAll items]
  | negation operand | isNull operand => simp only [Expr.rename, operand.rename_rename]
  | «matches» left right | member left right | atLeast left right | atMost left right
  | textMatch caseSensitive left right =>
      simp only [Expr.rename, left.rename_rename, right.rename_rename]

theorem renameAll_renameAll (expressions : List Expr) :
    renameAll second (renameAll first expressions) = renameAll (second ∘ first) expressions := by
  cases expressions with
  | nil => rfl
  | cons expression rest =>
      simp only [renameAll, expression.rename_rename, renameAll_renameAll rest]

end

mutual

theorem Rule.rename_rename (rule : Rule) :
    (rule.rename first).rename second = rule.rename (second ∘ first) := by
  cases rule with
  | condition branches otherwise =>
      simp only [Rule.rename, renameBranches_renameBranches branches,
        renameRules_renameRules otherwise]
  | assign name value => simp only [Rule.rename, value.rename_rename, Function.comp]

theorem Branch.rename_rename (branch : Branch) :
    (branch.rename first).rename second = branch.rename (second ∘ first) := by
  cases branch with
  | mk condition rules =>
      simp only [Branch.rename, condition.rename_rename, renameRules_renameRules rules]

theorem renameBranches_renameBranches (branches : List Branch) :
    renameBranches second (renameBranches first branches) =
      renameBranches (second ∘ first) branches := by
  cases branches with
  | nil => rfl
  | cons branch rest =>
      simp only [renameBranches, branch.rename_rename, renameBranches_renameBranches rest]

theorem renameRules_renameRules (rules : List Rule) :
    renameRules second (renameRules first rules) = renameRules (second ∘ first) rules := by
  cases rules with
  | nil => rfl
  | cons rule rest => simp only [renameRules, rule.rename_rename, renameRules_renameRules rest]

end

theorem ItemBody.rename_rename (body : ItemBody) :
    (body.rename first).rename second = body.rename (second ∘ first) := by
  cases body with
  | text title markup => rfl
  | question prompt interaction =>
      cases interaction <;>
        simp [ItemBody.rename, Interaction.rename, SimpleChoice.rename, Function.comp_def]

theorem Item.rename_rename (item : Item) :
    (item.rename first).rename second = item.rename (second ∘ first) := by
  simp [Item.rename, Synthesis.rename, FeedbackBlock.rename, Declarations.rename_rename,
    renameRules_renameRules, ItemBody.rename_rename, Response.rename_rename, Function.comp_def]

theorem Item.interaction?_rename (item : Item) :
    (item.rename naming).interaction? = item.interaction?.map (Interaction.rename naming) := by
  unfold Item.interaction? Item.rename
  cases item.body <;> rfl

theorem Item.interactionKinds_rename (item : Item) :
    (item.rename naming).interactionKinds = item.interactionKinds := by
  unfold Item.interactionKinds
  rw [Item.interaction?_rename]
  cases item.interaction? with
  | none => rfl
  | some interaction => cases interaction <;> rfl

theorem Item.choices_rename (item : Item) :
    (item.rename naming).choices = item.choices.map (SimpleChoice.rename naming) := by
  unfold Item.choices
  rw [Item.interaction?_rename]
  cases item.interaction? with
  | none => rfl
  | some interaction =>
      cases interaction <;> simp [Interaction.rename, Interaction.choices]

theorem Item.variables_rename (item : Item) :
    (item.rename naming).variables = item.variables.map naming := by
  simp [Item.variables, Item.rename, Synthesis.rename, Declarations.rename,
    Declarations.identifiers, Option.toList_map, ResponseDeclaration.rename,
    OutcomeDeclaration.rename, Function.comp_def]

/-- An item under an injective naming refers to as many identifiers. -/
theorem Item.length_references_rename (injective : Function.Injective naming) (item : Item) :
    (item.rename naming).references.length = item.references.length := by
  refine Eq.trans ?_ (Text.length_ascending_map injective _)
  rw [Item.references, Item.variables_rename, Item.choices_rename]
  simp [Item.rename, FeedbackBlock.rename, SimpleChoice.rename, List.flatMap_map,
    List.map_flatMap, Function.comp_def]

theorem Question.interaction_rename (question : Question) (shuffle : Bool) :
    question.interaction (identifiers.rename naming) shuffle =
      (question.interaction identifiers shuffle).rename naming := by
  unfold Question.interaction
  cases question.kind <;>
    simp [Interaction.rename, ItemIdentifiers.rename, SimpleChoice.rename, List.zip_map_right]

theorem FeedbackParts.inItemOrder_map {α β : Type} (convert : α → β) (parts : FeedbackParts α) :
    (parts.map convert).inItemOrder = parts.inItemOrder.map (Option.map convert) := by
  simp [FeedbackParts.map, FeedbackParts.inItemOrder]

theorem Question.feedbackBlocks_rename (question : Question) :
    question.feedbackBlocks (identifiers.rename naming) =
      (question.feedbackBlocks identifiers).map (FeedbackBlock.rename naming) := by
  unfold Question.feedbackBlocks
  cases present : identifiers.feedback with
  | none => simp [ItemIdentifiers.rename, present]
  | some outcome =>
      simp only [ItemIdentifiers.rename, present, Option.map_some, FeedbackParts.inItemOrder_map,
        List.zip_map_left, List.filterMap_map, List.map_filterMap]
      congr 1
      funext part
      rcases part with ⟨_ | identifier, _ | body⟩ <;> rfl

theorem correctChoices_map (choices : List Choice) (identifiers : List Identifier) :
    correctChoices choices (identifiers.map naming) =
      (correctChoices choices identifiers).map naming := by
  simp [correctChoices, List.zip_map_right, List.filter_map, Function.comp_def]

theorem QuestionKind.answerKey_rename (kind : QuestionKind) :
    kind.answerKey (identifiers.rename naming) =
      (kind.answerKey identifiers).map (Response.rename naming) := by
  cases kind <;>
    simp [QuestionKind.answerKey, ItemIdentifiers.rename, correctChoices_map, Response.rename,
      BaseType.rename, Function.comp_def]

theorem QuestionKind.declaredResponse_rename (kind : QuestionKind) :
    kind.declaredResponse (identifiers.rename naming) =
      (kind.declaredResponse identifiers).rename naming := by
  cases kind <;>
    simp [QuestionKind.declaredResponse, ItemIdentifiers.rename, correctChoices_map,
      ResponseDeclaration.rename, BaseType.rename, Function.comp_def]

theorem scoreOutcome_rename (score : Identifier) (normalMaximum : Option Float)
    (humanScored : Bool) :
    (scoreOutcome score normalMaximum humanScored).rename naming =
      scoreOutcome (naming score) normalMaximum humanScored := by
  simp only [scoreOutcome, OutcomeDeclaration.rename, Option.map_some, BaseType.rename_number]

theorem Question.outcomes_rename (question : Question) :
    question.outcomes (identifiers.rename naming) =
      (question.outcomes identifiers).map (OutcomeDeclaration.rename naming) := by
  simp only [Question.outcomes, List.map_cons, scoreOutcome_rename]
  cases present : identifiers.feedback <;> simp only [ItemIdentifiers.rename, present] <;> rfl

theorem renameAll_eq (expressions : List Expr) :
    renameAll naming expressions = expressions.map (Expr.rename naming) := by
  induction expressions with
  | nil => rfl
  | cons expression rest ih => rw [renameAll, ih, List.map_cons]

theorem renameRules_append (front back : List Rule) :
    renameRules naming (front ++ back) = renameRules naming front ++ renameRules naming back := by
  induction front with
  | nil => rfl
  | cons rule rest ih => rw [List.cons_append, renameRules, renameRules, ih, List.cons_append]

theorem renameRules_flatMap {α : Type} (values : List α) (made : α → List Rule) :
    renameRules naming (values.flatMap made) =
      values.flatMap fun value => renameRules naming (made value) := by
  induction values with
  | nil => rfl
  | cons value rest ih => rw [List.flatMap_cons, renameRules_append, ih, List.flatMap_cons]

theorem QuestionKind.condition?_rename (kind : QuestionKind) :
    kind.condition? (identifiers.rename naming) =
      (kind.condition? identifiers).map (Expr.rename naming) := by
  cases kind with
  | singleChoice choices | trueFalse choices =>
      simp [QuestionKind.condition?, ItemIdentifiers.rename, correctChoices_map, Function.comp_def,
        isChoice, Expr.rename, Expr.identifier, BaseType.rename]
  | multipleAnswer choices =>
      simp only [QuestionKind.condition?, ItemIdentifiers.rename, List.zip_map_right,
        List.map_map, Option.map_some, Expr.rename, renameAll_eq]
      refine congrArg (some ∘ Expr.all) (List.map_congr_left fun pair _ => ?_)
      simp only [Function.comp, Prod.map, id, isRightlyTaken]
      cases pair.1.correct <;> rfl
  | shortAnswer answers | numerical answers =>
      simp only [QuestionKind.condition?, ItemIdentifiers.rename, Option.map_some, Expr.rename,
        renameAll_eq, List.map_map]
      rfl
  | essay | fileUpload => rfl

theorem ItemIdentifiers.shown_rename (block : Option Identifier) :
    (identifiers.rename naming).shown (block.map naming) =
      renameRules naming (identifiers.shown block) := by
  unfold ItemIdentifiers.shown
  simp only [ItemIdentifiers.rename]
  cases identifiers.feedback <;> cases block <;> rfl

theorem Expr.rename_number (value : Float) : (Expr.number value).rename naming = .number value :=
  rfl

theorem Question.scoringRules_rename (question : Question) :
    question.scoringRules (identifiers.rename naming) =
      renameRules naming (question.scoringRules identifiers) := by
  have correct : (identifiers.rename naming).shown _ = _ :=
    identifiers.shown_rename identifiers.blocks.correct
  have incorrect : (identifiers.rename naming).shown _ = _ :=
    identifiers.shown_rename identifiers.blocks.incorrect
  unfold Question.scoringRules
  rw [QuestionKind.condition?_rename]
  cases question.kind.condition? identifiers with
  | none => rfl
  | some condition =>
      simp only [Option.map_some, renameRules, Rule.rename, renameBranches, Branch.rename,
        Expr.rename_number, ← correct, ← incorrect]
      rw [ItemIdentifiers.rename, FeedbackParts.map]

theorem QuestionKind.choiceRules_rename (kind : QuestionKind) (choice : Identifier)
    (block : Option Identifier) :
    kind.choiceRules (identifiers.rename naming) (naming choice) (block.map naming) =
      renameRules naming (kind.choiceRules identifiers choice block) := by
  unfold QuestionKind.choiceRules
  rw [ItemIdentifiers.shown_rename]
  cases identifiers.shown block with
  | nil => rfl
  | cons rule rest => cases kind.selectsSeveral <;> rfl

theorem Question.rules_rename (question : Question) :
    question.rules (identifiers.rename naming) =
      renameRules naming (question.rules identifiers) := by
  have choices : ((identifiers.rename naming).choices.zip
      (identifiers.rename naming).blocks.choices).flatMap (fun pair =>
        question.kind.choiceRules (identifiers.rename naming) pair.1 pair.2) =
      (identifiers.choices.zip identifiers.blocks.choices).flatMap fun pair =>
        renameRules naming (question.kind.choiceRules identifiers pair.1 pair.2) := by
    rw [ItemIdentifiers.rename, FeedbackParts.map, List.zip_map, List.flatMap_map]
    exact List.flatMap_congr fun pair _ => question.kind.choiceRules_rename pair.1 pair.2
  rw [Question.rules, choices, Question.scoringRules_rename, Question.rules, renameRules_append,
    renameRules_append, renameRules_flatMap, ← ItemIdentifiers.shown_rename]
  rfl

theorem Question.synthesis_rename (question : Question) :
    question.synthesis (identifiers.rename naming) =
      (question.synthesis identifiers).rename naming := by
  simp only [Question.synthesis, Synthesis.rename, Declarations.rename, Option.map_some,
    QuestionKind.declaredResponse_rename, Question.outcomes_rename, Question.rules_rename]

/-- The item of a question has the identifiers that it is made of, and no others. -/
theorem Question.item_rename (question : Question) (location : Location) (shuffle : Bool) :
    question.item (identifiers.rename naming) (question.synthesis (identifiers.rename naming))
        location shuffle =
      (question.item identifiers (question.synthesis identifiers) location shuffle).rename
        naming := by
  simp only [Question.item, Item.rename, ItemBody.rename, Question.synthesis_rename,
    Question.interaction_rename, Question.feedbackBlocks_rename, QuestionKind.answerKey_rename]
  rw [ItemIdentifiers.rename]

theorem TextRegion.item_rename (region : TextRegion) (identifier score : Identifier) :
    region.item (naming identifier) (naming score) =
      (region.item identifier score).rename naming := by
  simp only [TextRegion.item, Item.rename, Synthesis.rename, Declarations.rename, Option.map_none,
    List.map_cons, List.map_nil, scoreOutcome_rename, renameRules, ItemBody.rename]

end QuizPackage
