import QuizPackage.Page.Manifest
import QuizPackage.Page.Test
import QuizPackage.Proofs.Markup.Lines
import QuizPackage.Proofs.Package.Renaming

namespace QuizPackage

open Text Markup

/-- Two namings give identifiers with as many line feeds. -/
def SameFeeds (first second : Identifier → Identifier) : Prop :=
  ∀ identifier, lineFeeds (first identifier).text = lineFeeds (second identifier).text

namespace Markup

@[simp]
theorem attributesFeeds_nil : attributesFeeds [] = 0 := rfl

@[simp]
theorem attributesFeeds_cons (name : AttributeName) (value : String) (rest : List Attribute) :
    attributesFeeds (⟨name, value⟩ :: rest) = lineFeeds value + attributesFeeds rest := rfl

@[simp]
theorem attributesFeeds_append (front back : List Attribute) :
    attributesFeeds (front ++ back) = attributesFeeds front + attributesFeeds back := by
  induction front with
  | nil => exact (Nat.zero_add _).symm
  | cons first rest ih =>
      rw [List.cons_append, attributesFeeds, ih, attributesFeeds, Nat.add_assoc]

@[simp]
theorem feedsOfBlocks_append (front back : List Block) :
    feedsOfBlocks (front ++ back) = feedsOfBlocks front + feedsOfBlocks back := by
  induction front with
  | nil => exact (Nat.zero_add _).symm
  | cons first rest ih => rw [List.cons_append, feedsOfBlocks, ih, feedsOfBlocks, Nat.add_assoc]

/-- Blocks that are made with as many line feeds have as many together. -/
theorem feedsOfBlocks_map_congr {α : Type} {made other : α → Block}
    (same : ∀ value, (made value).feeds = (other value).feeds) (values : List α) :
    feedsOfBlocks (values.map made) = feedsOfBlocks (values.map other) := by
  induction values with
  | nil => rfl
  | cons value rest ih =>
      rw [List.map_cons, List.map_cons, feedsOfBlocks, feedsOfBlocks, same, ih]

@[simp]
theorem Block.feeds_empty (name : ElementName) (attributes : List Attribute) :
    (Block.empty name attributes).feeds = attributesFeeds attributes + 1 := rfl

@[simp]
theorem Block.feeds_text (name : ElementName) (attributes : List Attribute) (value : String) :
    (Block.text name attributes value).feeds =
      attributesFeeds attributes + lineFeeds value + 1 := rfl

@[simp]
theorem Block.feeds_fragment (name : ElementName) (attributes : List Attribute)
    (markup : String) :
    (Block.fragment name attributes markup).feeds =
      attributesFeeds attributes + lineFeeds markup + 1 := rfl

end Markup

variable {first second : Identifier → Identifier} {format : Format}

theorem SameFeeds.baseType (same : SameFeeds first second) (baseType : BaseType) (value : String) :
    lineFeeds (baseType.rename first value) = lineFeeds (baseType.rename second value) := by
  cases baseType with
  | identifier => exact same ⟨value⟩
  | text | number | file => rfl

mutual

theorem Expr.feeds_rename (same : SameFeeds first second) (expression : Expr) :
    (expression.rename first).block.feeds = (expression.rename second).block.feeds := by
  cases expression with
  | read name => simp [Expr.rename, Expr.block, same name]
  | literal baseType value => simp [Expr.rename, Expr.block, same.baseType]
  | multiple items | all items | any items =>
      simp [Expr.rename, Expr.block, Block.feeds, feedsOfAll_rename same items]
  | negation operand | isNull operand =>
      simp [Expr.rename, Expr.block, Block.feeds, feedsOfBlocks, operand.feeds_rename same]
  | «matches» left right | member left right | atLeast left right | atMost left right
  | textMatch caseSensitive left right =>
      simp [Expr.rename, Expr.block, Block.feeds, feedsOfBlocks, left.feeds_rename same,
        right.feeds_rename same]

theorem feedsOfAll_rename (same : SameFeeds first second) (expressions : List Expr) :
    feedsOfBlocks (blocksOfAll (renameAll first expressions)) =
      feedsOfBlocks (blocksOfAll (renameAll second expressions)) := by
  cases expressions with
  | nil => rfl
  | cons expression rest =>
      simp [renameAll, blocksOfAll, feedsOfBlocks, expression.feeds_rename same,
        feedsOfAll_rename same rest]

end

mutual

theorem Rule.feeds_rename (same : SameFeeds first second) (rule : Rule) :
    (rule.rename first).block.feeds = (rule.rename second).block.feeds := by
  cases rule with
  | condition branches otherwise =>
      simp [Rule.rename, Rule.block, Block.feeds, feedsOfBranches_rename same branches,
        feedsOfLastResort_rename same otherwise]
  | assign name value =>
      simp [Rule.rename, Rule.block, Block.feeds, feedsOfBlocks, same name,
        value.feeds_rename same]

theorem Branch.feeds_rename (same : SameFeeds first second) (name : ElementName)
    (branch : Branch) :
    ((branch.rename first).block name).feeds = ((branch.rename second).block name).feeds := by
  cases branch with
  | mk condition rules =>
      simp [Branch.rename, Branch.block, Block.feeds, feedsOfBlocks, condition.feeds_rename same,
        feedsOfRules_rename same rules]

theorem feedsOfBranches_rename (same : SameFeeds first second) {name : ElementName}
    (branches : List Branch) :
    feedsOfBlocks (blocksOfBranches name (renameBranches first branches)) =
      feedsOfBlocks (blocksOfBranches name (renameBranches second branches)) := by
  cases branches with
  | nil => rfl
  | cons branch rest =>
      simp [renameBranches, blocksOfBranches, feedsOfBlocks, branch.feeds_rename same,
        feedsOfBranches_rename same rest]

theorem feedsOfLastResort_rename (same : SameFeeds first second) (rules : List Rule) :
    feedsOfBlocks (blocksOfLastResort (renameRules first rules)) =
      feedsOfBlocks (blocksOfLastResort (renameRules second rules)) := by
  cases rules with
  | nil => rfl
  | cons rule rest =>
      simp [renameRules, blocksOfLastResort, feedsOfBlocks, Block.feeds, rule.feeds_rename same,
        feedsOfRules_rename same rest]

theorem feedsOfRules_rename (same : SameFeeds first second) (rules : List Rule) :
    feedsOfBlocks (blocksOfRules (renameRules first rules)) =
      feedsOfBlocks (blocksOfRules (renameRules second rules)) := by
  cases rules with
  | nil => rfl
  | cons rule rest =>
      simp [renameRules, blocksOfRules, feedsOfBlocks, rule.feeds_rename same,
        feedsOfRules_rename same rest]

end

theorem feedsOfProcessing_rename (same : SameFeeds first second) (rules : List Rule) :
    feedsOfBlocks (processingBlocks (renameRules first rules)) =
      feedsOfBlocks (processingBlocks (renameRules second rules)) := by
  cases rules with
  | nil => rfl
  | cons rule rest =>
      have all := feedsOfRules_rename same (rule :: rest)
      simp only [renameRules] at all
      simp [renameRules, processingBlocks, feedsOfBlocks, Block.feeds, all]

theorem feedsOfValues_rename (same : SameFeeds first second) (baseType : BaseType)
    (values : List String) :
    feedsOfBlocks (valueBlocks (values.map (baseType.rename first ·))) =
      feedsOfBlocks (valueBlocks (values.map (baseType.rename second ·))) := by
  unfold valueBlocks
  rw [List.map_map, List.map_map]
  exact feedsOfBlocks_map_congr (fun value => by simp [same.baseType]) values

theorem ResponseDeclaration.feeds_rename (same : SameFeeds first second)
    (declaration : ResponseDeclaration) :
    (declaration.rename first).block.feeds = (declaration.rename second).block.feeds := by
  obtain ⟨identifier, cardinality, baseType, correct⟩ := declaration
  have values := feedsOfValues_rename same baseType correct
  cases correct with
  | nil => simp [ResponseDeclaration.rename, ResponseDeclaration.block, variableAttributes, same _]
  | cons value rest =>
      simp only [List.map_cons] at values
      simp [ResponseDeclaration.rename, ResponseDeclaration.block, variableAttributes, Block.feeds,
        feedsOfBlocks, same _, values]

theorem OutcomeDeclaration.feeds_rename (same : SameFeeds first second) (format : Format)
    (declaration : OutcomeDeclaration) :
    ((declaration.rename first).block format).feeds =
      ((declaration.rename second).block format).feeds := by
  obtain ⟨identifier, role, cardinality, baseType, defaultValue, greatest, scored⟩ := declaration
  cases defaultValue <;> cases scored <;>
    simp [OutcomeDeclaration.rename, OutcomeDeclaration.block, variableAttributes, Block.feeds,
      feedsOfBlocks, valueBlocks, same _, same.baseType]

theorem SimpleChoice.feeds_rename (same : SameFeeds first second) (choice : SimpleChoice) :
    (choice.rename first).block.feeds = (choice.rename second).block.feeds := by
  simp [SimpleChoice.rename, SimpleChoice.block, same _]

theorem Interaction.feeds_rename (same : SameFeeds first second) (interaction : Interaction)
    (prompt : String) :
    feedsOfBlocks ((interaction.rename first).blocks prompt) =
      feedsOfBlocks ((interaction.rename second).blocks prompt) := by
  cases interaction with
  | choice response shuffle maxChoices choices =>
      have offered := feedsOfBlocks_map_congr (fun choice => SimpleChoice.feeds_rename same choice)
        choices
      simp [Interaction.rename, Interaction.blocks, Interaction.response, Interaction.kind,
        feedsOfBlocks, Block.feeds, Function.comp_def, same _, offered]
  | textEntry response expectedLength =>
      simp [Interaction.rename, Interaction.blocks, Interaction.response, Interaction.kind,
        feedsOfBlocks, Block.feeds, Inline.feeds, feedsOfInlines, same _]
  | extendedText response expectedLines | upload response =>
      simp [Interaction.rename, Interaction.blocks, Interaction.response, Interaction.kind,
        feedsOfBlocks, Block.feeds, same _]

theorem ItemBody.feeds_rename (same : SameFeeds first second) (body : ItemBody) :
    feedsOfBlocks (body.rename first).blocks = feedsOfBlocks (body.rename second).blocks := by
  cases body with
  | question prompt interaction => exact interaction.feeds_rename same prompt
  | text title markup => rfl

theorem FeedbackBlock.feeds_rename (same : SameFeeds first second) (format : Format)
    (block : FeedbackBlock) :
    ((block.rename first).block format).feeds = ((block.rename second).block format).feeds := by
  cases format <;>
    simp [FeedbackBlock.rename, FeedbackBlock.block, Block.feeds, feedsOfBlocks, same _]

theorem Item.feeds_rename (same : SameFeeds first second) (item : Item) :
    ((item.rename first).block format).feeds = ((item.rename second).block format).feeds := by
  have responses := feedsOfBlocks_map_congr
    (fun declaration => ResponseDeclaration.feeds_rename same declaration)
    item.synthesis.declarations.response.toList
  have outcomes := feedsOfBlocks_map_congr
    (fun declaration => OutcomeDeclaration.feeds_rename same format declaration)
    item.synthesis.declarations.outcomes
  have feedback := feedsOfBlocks_map_congr
    (fun block => FeedbackBlock.feeds_rename same format block) item.feedback
  simp [Item.rename, Item.block, Block.feeds, feedsOfBlocks, Synthesis.rename, Declarations.rename,
    Option.toList_map, Function.comp_def, same _, item.body.feeds_rename same,
    feedsOfProcessing_rename same, responses, outcomes, feedback]

theorem ItemReference.feeds_rename (same : SameFeeds first second) (reference : ItemReference) :
    (reference.rename first).block.feeds = (reference.rename second).block.feeds := by
  simp [ItemReference.rename, ItemReference.to, ItemReference.block, itemHref, itemPath, same _]

theorem SectionPart.feeds_rename (same : SameFeeds first second) (part : SectionPart) :
    (part.rename first).block.feeds = (part.rename second).block.feeds := by
  cases part with
  | item reference => exact reference.feeds_rename same
  | group pool =>
      have members := feedsOfBlocks_map_congr
        (fun reference => ItemReference.feeds_rename same reference) pool.items
      simp [SectionPart.rename, GroupSection.rename, SectionPart.block, sectionBlock, Block.feeds,
        feedsOfBlocks, Function.comp_def, same _, members]

theorem Test.feeds_rename (same : SameFeeds first second) (test : Test) :
    ((test.rename first).block format).feeds = ((test.rename second).block format).feeds := by
  have parts := feedsOfBlocks_map_congr (fun part => SectionPart.feeds_rename same part) test.parts
  simp [Test.rename, Test.block, testScoreBlock, Test.partBlock, sectionBlock, Block.feeds,
    feedsOfBlocks, Function.comp_def, same _, parts]

theorem Resource.feeds_renamedHref (same : SameFeeds first second) (resource : Resource) :
    lineFeeds (resource.renamedHref first) = lineFeeds (resource.renamedHref second) := by
  unfold Resource.renamedHref
  cases resource.kind <;> simp [testPath, itemPath, same _]

theorem Resource.feeds_rename (same : SameFeeds first second) (format : Format)
    (resource : Resource) :
    ((resource.rename first).block format).feeds =
      ((resource.rename second).block format).feeds := by
  have needed := feedsOfBlocks_map_congr
    (fun dependency => by
      simp [same dependency] :
      ∀ dependency, (Block.empty .dependency [⟨.identifierRef, (first dependency).text⟩]).feeds =
        (Block.empty .dependency [⟨.identifierRef, (second dependency).text⟩]).feeds)
    resource.dependencies
  simp [Resource.rename, Resource.block, Block.feeds, feedsOfBlocks, Function.comp_def, same _,
    resource.feeds_renamedHref same, needed]

theorem Manifest.feeds_rename (same : SameFeeds first second) (manifest : Manifest) :
    ((manifest.rename first).block format).feeds =
      ((manifest.rename second).block format).feeds := by
  have listed := feedsOfBlocks_map_congr
    (fun resource => Resource.feeds_rename same format resource) manifest.resources
  simp [Manifest.rename, Manifest.block, Block.feeds, feedsOfBlocks, Function.comp_def, same _,
    listed]

theorem Item.lineCount_rename (same : SameFeeds first second) (item : Item) :
    lineCount ((item.rename first).page format) = lineCount ((item.rename second).page format) := by
  rw [Item.page, Item.page, lineCount_renderDocument, lineCount_renderDocument,
    item.feeds_rename same]

theorem Test.lineCount_rename (same : SameFeeds first second) (test : Test) :
    lineCount ((test.rename first).page format) = lineCount ((test.rename second).page format) := by
  rw [Test.page, Test.page, lineCount_renderDocument, lineCount_renderDocument,
    test.feeds_rename same]

theorem Manifest.lineCount_rename (same : SameFeeds first second) (manifest : Manifest) :
    lineCount ((manifest.rename first).page format) =
      lineCount ((manifest.rename second).page format) := by
  rw [Manifest.page, Manifest.page, lineCount_renderDocument, lineCount_renderDocument,
    manifest.feeds_rename same]

end QuizPackage
