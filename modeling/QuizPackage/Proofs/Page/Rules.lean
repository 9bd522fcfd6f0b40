import QuizPackage.Page.Item
import QuizPackage.Proofs.Identifier.Registry
import QuizPackage.Proofs.Markup.Reading

/-!
# Rules can be read back

The markup of a rule tells the rule: the name of an element tells the kind of an expression or rule,
its attributes the names in it, and its children the parts. A condition is the first child of its
branch, and the name of a branch tells whether it is the first one, an alternative or the last
resort. As the markup is legible, the page of an item tells its rules.
-/

namespace QuizPackage

open Markup

variable {format : Format}

mutual

theorem Expr.block_legible (expression : Expr) : expression.block.Legible := by
  cases expression with
  | read name => exact .line (.empty _ _)
  | literal baseType value => exact .line (.text rfl _ value)
  | multiple items => exact .element rfl _ (blocksOfAll_legible items)
  | «matches» left right | member left right | textMatch _ left right | atLeast left right
  | atMost left right =>
      exact .element rfl _ (by simp [left.block_legible, right.block_legible])
  | all operands => exact .element rfl _ (blocksOfAll_legible operands)
  | any operands => exact .element rfl _ (blocksOfAll_legible operands)
  | negation operand => exact .element rfl _ (by simp [operand.block_legible])
  | isNull operand => exact .element rfl _ (by simp [operand.block_legible])

theorem blocksOfAll_legible (expressions : List Expr) :
    ∀ block ∈ blocksOfAll expressions, block.Legible := by
  cases expressions with
  | nil => exact fun block member => absurd member List.not_mem_nil
  | cons first rest =>
      exact List.forall_mem_cons.mpr ⟨first.block_legible, blocksOfAll_legible rest⟩

end

mutual

theorem Rule.block_legible (rule : Rule) : rule.block.Legible := by
  cases rule with
  | condition branches otherwise =>
      exact .element rfl _ (List.forall_mem_append.mpr
        ⟨blocksOfBranches_legible .responseIf rfl branches, blocksOfLastResort_legible otherwise⟩)
  | assign name value => exact .element rfl _ (by simp [value.block_legible])

theorem Branch.block_legible (name : ElementName) (bare : name.holdsText = false)
    (branch : Branch) : (branch.block name).Legible := by
  cases branch with
  | mk condition rules =>
      exact .element bare _
        (List.forall_mem_cons.mpr ⟨condition.block_legible, blocksOfRules_legible rules⟩)

theorem blocksOfBranches_legible (name : ElementName) (bare : name.holdsText = false)
    (branches : List Branch) : ∀ block ∈ blocksOfBranches name branches, block.Legible := by
  cases branches with
  | nil => exact fun block member => absurd member List.not_mem_nil
  | cons first rest =>
      exact List.forall_mem_cons.mpr
        ⟨first.block_legible name bare, blocksOfBranches_legible .responseElseIf rfl rest⟩

theorem blocksOfLastResort_legible (rules : List Rule) :
    ∀ block ∈ blocksOfLastResort rules, block.Legible := by
  cases rules with
  | nil => exact fun block member => absurd member List.not_mem_nil
  | cons first rest =>
      refine List.forall_mem_singleton.mpr (.element rfl _ ?_)
      exact List.forall_mem_cons.mpr ⟨first.block_legible, blocksOfRules_legible rest⟩

theorem blocksOfRules_legible (rules : List Rule) :
    ∀ block ∈ blocksOfRules rules, block.Legible := by
  cases rules with
  | nil => exact fun block member => absurd member List.not_mem_nil
  | cons first rest =>
      exact List.forall_mem_cons.mpr ⟨first.block_legible, blocksOfRules_legible rest⟩

end

theorem processingBlocks_legible (rules : List Rule) :
    ∀ block ∈ processingBlocks rules, block.Legible := by
  cases rules with
  | nil => exact fun block member => absurd member List.not_mem_nil
  | cons first rest =>
      exact List.forall_mem_singleton.mpr (.element rfl _ (blocksOfRules_legible (first :: rest)))

theorem BaseType.name_injective : Function.Injective BaseType.name := by
  intro first second
  cases first <;> cases second <;> decide

theorem pair_inj {name other : ElementName} {attributes others : List Attribute}
    {left right otherLeft otherRight : Block}
    (same : Block.element name attributes [left, right] =
      .element other others [otherLeft, otherRight]) :
    left = otherLeft ∧ right = otherRight := by
  cases same
  exact ⟨rfl, rfl⟩

mutual

theorem Expr.block_inj (first second : Expr) (same : first.block = second.block) :
    first = second := by
  -- Every kind has an element name of its own, so no two kinds have the same block.
  cases first with
  | read name =>
      cases second with
      | read other =>
          simp only [Expr.block, Block.empty, Block.line.injEq, Inline.element.injEq,
            List.cons.injEq, Attribute.mk.injEq, true_and, and_true] at same
          rw [Identifier.text_injective same]
      | _ => cases same
  | literal baseType value =>
      cases second with
      | literal otherType other =>
          simp only [Expr.block, Block.text, Block.line.injEq, Inline.element.injEq,
            List.cons.injEq, Attribute.mk.injEq, Inline.text.injEq, true_and, and_true] at same
          rw [BaseType.name_injective same.1, same.2]
      | _ => cases same
  | multiple items =>
      cases second with
      | multiple others => rw [blocksOfAll_inj items others (Block.element.inj same).2.2]
      | _ => cases same
  | «matches» left right =>
      cases second with
      | «matches» otherLeft otherRight =>
          obtain ⟨lefts, rights⟩ := pair_inj same
          rw [left.block_inj otherLeft lefts, right.block_inj otherRight rights]
      | _ => cases same
  | member value container =>
      cases second with
      | member otherValue otherContainer =>
          obtain ⟨lefts, rights⟩ := pair_inj same
          rw [value.block_inj otherValue lefts, container.block_inj otherContainer rights]
      | _ => cases same
  | textMatch caseSensitive left right =>
      cases second with
      | textMatch otherSensitive otherLeft otherRight =>
          obtain ⟨lefts, rights⟩ := pair_inj same
          simp only [Expr.block, Block.element.injEq, List.cons.injEq, Attribute.mk.injEq, true_and,
            and_true] at same
          rw [flag_injective same.1, left.block_inj otherLeft lefts,
            right.block_inj otherRight rights]
      | _ => cases same
  | atLeast left right =>
      cases second with
      | atLeast otherLeft otherRight =>
          obtain ⟨lefts, rights⟩ := pair_inj same
          rw [left.block_inj otherLeft lefts, right.block_inj otherRight rights]
      | _ => cases same
  | atMost left right =>
      cases second with
      | atMost otherLeft otherRight =>
          obtain ⟨lefts, rights⟩ := pair_inj same
          rw [left.block_inj otherLeft lefts, right.block_inj otherRight rights]
      | _ => cases same
  | all operands =>
      cases second with
      | all others => rw [blocksOfAll_inj operands others (Block.element.inj same).2.2]
      | _ => cases same
  | any operands =>
      cases second with
      | any others => rw [blocksOfAll_inj operands others (Block.element.inj same).2.2]
      | _ => cases same
  | negation operand =>
      cases second with
      | negation other =>
          have operands := (Block.element.inj same).2.2
          rw [operand.block_inj other (List.cons.inj operands).1]
      | _ => cases same
  | isNull operand =>
      cases second with
      | isNull other =>
          have operands := (Block.element.inj same).2.2
          rw [operand.block_inj other (List.cons.inj operands).1]
      | _ => cases same

theorem blocksOfAll_inj (first second : List Expr)
    (same : blocksOfAll first = blocksOfAll second) : first = second := by
  cases first with
  | nil =>
      cases second with
      | nil => rfl
      | cons => cases same
  | cons expression rest =>
      cases second with
      | nil => cases same
      | cons other others =>
          obtain ⟨heads, tails⟩ := List.cons.inj same
          rw [expression.block_inj other heads, blocksOfAll_inj rest others tails]

end

theorem lastResort_ne_branches {name : ElementName} (other : name ≠ .responseElse)
    (branch : Branch) (rest : List Branch) {resort : List Rule} {blocks : List Block} :
    blocksOfBranches name [] ++ blocksOfLastResort resort ≠
      blocksOfBranches name (branch :: rest) ++ blocks := by
  intro same
  cases resort with
  | nil => cases same
  | cons rule rules =>
      cases branch with
      | mk condition rules =>
          obtain ⟨heads, -⟩ := List.cons.inj same
          exact other (Block.element.inj heads).1.symm

mutual

theorem Rule.block_inj (first second : Rule) (same : first.block = second.block) :
    first = second := by
  cases first with
  | condition branches otherwise =>
      cases second with
      | condition others otherResort =>
          simp only [Rule.block, Block.element.injEq, true_and] at same
          obtain ⟨rfl, resorts⟩ := branches_inj .responseIf (by decide) branches others same
          rw [blocksOfLastResort_inj otherwise otherResort resorts]
      | assign => cases same
  | assign name value =>
      cases second with
      | condition => cases same
      | assign other otherValue =>
          simp only [Rule.block, Block.element.injEq, List.cons.injEq, Attribute.mk.injEq, true_and,
            and_true] at same
          rw [Identifier.text_injective same.1, value.block_inj otherValue same.2]

theorem Branch.block_inj (name : ElementName) (first second : Branch)
    (same : first.block name = second.block name) : first = second := by
  cases first with
  | mk condition rules =>
      cases second with
      | mk otherCondition otherRules =>
          simp only [Branch.block, Block.element.injEq, List.cons.injEq, true_and] at same
          rw [condition.block_inj otherCondition same.1, blocksOfRules_inj rules otherRules same.2]

/-- The branches of a condition end where its last resort starts. -/
theorem branches_inj (name : ElementName) (other : name ≠ .responseElse)
    (first second : List Branch) {resort otherResort : List Rule}
    (same : blocksOfBranches name first ++ blocksOfLastResort resort =
      blocksOfBranches name second ++ blocksOfLastResort otherResort) :
    first = second ∧ blocksOfLastResort resort = blocksOfLastResort otherResort := by
  cases first with
  | nil =>
      cases second with
      | nil => exact ⟨rfl, same⟩
      | cons branch rest => exact absurd same (lastResort_ne_branches other branch rest)
  | cons branch rest =>
      cases second with
      | nil => exact absurd same.symm (lastResort_ne_branches other branch rest)
      | cons otherBranch others =>
          obtain ⟨heads, tails⟩ := List.cons.inj same
          obtain ⟨rfl, resorts⟩ := branches_inj .responseElseIf (by decide) rest others tails
          rw [branch.block_inj name otherBranch heads]
          exact ⟨rfl, resorts⟩

theorem blocksOfLastResort_inj (first second : List Rule)
    (same : blocksOfLastResort first = blocksOfLastResort second) : first = second := by
  cases first with
  | nil =>
      cases second with
      | nil => rfl
      | cons => cases same
  | cons rule rest =>
      cases second with
      | nil => cases same
      | cons otherRule others =>
          simp only [blocksOfLastResort, List.cons.injEq, Block.element.injEq, true_and,
            and_true] at same
          rw [rule.block_inj otherRule same.1, blocksOfRules_inj rest others same.2]

theorem blocksOfRules_inj (first second : List Rule)
    (same : blocksOfRules first = blocksOfRules second) : first = second := by
  cases first with
  | nil =>
      cases second with
      | nil => rfl
      | cons => cases same
  | cons rule rest =>
      cases second with
      | nil => cases same
      | cons otherRule others =>
          obtain ⟨heads, tails⟩ := List.cons.inj same
          rw [rule.block_inj otherRule heads, blocksOfRules_inj rest others tails]

end

theorem processingBlocks_injective : Function.Injective processingBlocks := by
  intro first second same
  cases first with
  | nil =>
      cases second with
      | nil => rfl
      | cons => cases same
  | cons rule rest =>
      cases second with
      | nil => cases same
      | cons other others =>
          simp only [processingBlocks, List.cons.injEq, Block.element.injEq, true_and,
            and_true] at same
          exact blocksOfRules_inj (rule :: rest) (other :: others) same

def Item.withRules (item : Item) (rules : List Rule) : Item :=
  { item with synthesis := { item.synthesis with rules := rules } }

theorem Item.withRules_self (item : Item) : item.withRules item.synthesis.rules = item :=
  rfl

theorem Item.withRules_withRules (item : Item) (first second : List Rule) :
    (item.withRules first).withRules second = item.withRules second :=
  rfl

/-- The page of an item holds its response processing between parts that its rules do not
change. -/
theorem Item.page_withRules (format : Format) (item : Item) :
    ∃ front back, ∀ rules, (item.withRules rules).page format =
      front ++ renderBlocks format 1 (processingBlocks rules) ++ back := by
  let attributes := contentAttributes format ++ [
    ⟨.identifier, item.identifier.text⟩,
    ⟨.title, item.title⟩,
    ⟨.adaptive, "false"⟩,
    ⟨.timeDependent, "false"⟩]
  let above := item.synthesis.declarations.response.toList.map ResponseDeclaration.block ++
    item.synthesis.declarations.outcomes.map (OutcomeDeclaration.block format) ++
    [.element .itemBody [] item.body.blocks]
  let below := item.feedback.map (FeedbackBlock.block format)
  refine ⟨declaration ++ (indent 0 ++ renderStart format .assessmentItem attributes ++ "\n") ++
    renderBlocks format 1 above,
    renderBlocks format 1 below ++ indent 0 ++ renderEnd format .assessmentItem ++ "\n",
    fun rules => ?_⟩
  have parts : (item.withRules rules).block format =
      .element .assessmentItem attributes (above ++ processingBlocks rules ++ below) := rfl
  rw [Item.page, renderDocument, parts, Block.render, renderBlocks_append, renderBlocks_append]
  simp only [String.append_assoc]

/-- Response processing loses nothing: items that differ at most in their rules have the same rules
if their pages are the same. -/
theorem page_tells_rules (format : Format) (first second : Item)
    (alike : first.withRules [] = second.withRules [])
    (same : first.page format = second.page format) :
    first.synthesis.rules = second.synthesis.rules := by
  obtain ⟨front, back, page⟩ := first.page_withRules format
  have other : first.withRules second.synthesis.rules = second := by
    rw [← first.withRules_withRules [], alike, second.withRules_withRules, second.withRules_self]
  rw [← first.withRules_self, ← other, page, page] at same
  have blocks : renderBlocks format 1 (processingBlocks first.synthesis.rules) =
      renderBlocks format 1 (processingBlocks second.synthesis.rules) := by
    have letters := congrArg String.toList same
    simp only [String.toList_append] at letters
    exact String.toList_inj.mp
      (List.append_cancel_left (List.append_cancel_right letters))
  exact processingBlocks_injective (renderBlocks_injective (processingBlocks_legible _)
    (processingBlocks_legible _) 0 blocks)

/-- A question whose rules have an alternative, and a condition as their last resort. -/
def buoy : Item :=
  { identifier := ⟨"q1"⟩
    title := "Lights & \"marks\""
    kind := "short_answer"
    points := 1.0
    synthesis :=
      { declarations :=
          { response := some ⟨⟨"RESPONSE"⟩, .single, .text, ["red & <green>"]⟩
            outcomes := [⟨⟨"SCORE"⟩, .score, .single, .number, some "0", none, false⟩] }
        rules := [
          .condition
            [
              .mk (.textMatch true (.read ⟨"RESPONSE"⟩) (.text "red & <green>"))
                [.assign ⟨"SCORE"⟩ (.text "1")],
              .mk (.any []) []]
            [.condition [.mk (.isNull (.read ⟨"RESPONSE"⟩)) []] []]] }
    body := .question "<p>Which lights?</p>" (.textEntry ⟨"RESPONSE"⟩ 20)
    feedback := []
    assets := []
    answerKey := some (.text "red & <green>") }

/-- The rules of that question, with every literal spelled out. -/
def buoyRules : List Rule := [
  .condition
    [
      .mk (.textMatch true (.read ⟨"RESPONSE"⟩) (.literal .text "red & <green>"))
        [.assign ⟨"SCORE"⟩ (.literal .text "1")],
      .mk (.any []) []]
    [.condition [.mk (.isNull (.read ⟨"RESPONSE"⟩)) []] []]]

/-- The same rules but for the last resort, whose condition is one more alternative here. -/
def branchedBuoyRules : List Rule := [
  .condition
    [
      .mk (.textMatch true (.read ⟨"RESPONSE"⟩) (.literal .text "red & <green>"))
        [.assign ⟨"SCORE"⟩ (.literal .text "1")],
      .mk (.any []) [],
      .mk (.isNull (.read ⟨"RESPONSE"⟩)) []]
    []]

theorem buoy_page_tells_rules :
    (buoy.withRules [] = (buoy.withRules buoyRules).withRules [] ∧
      buoy.page .qti21 = (buoy.withRules buoyRules).page .qti21 ∧
      buoy.synthesis.rules = buoyRules) ∧
    buoy.withRules [] = (buoy.withRules branchedBuoyRules).withRules [] ∧
      buoy.synthesis.rules ≠ branchedBuoyRules ∧
      buoy.page .qti21 ≠ (buoy.withRules branchedBuoyRules).page .qti21 := by
  have alike : buoy.withRules [] = (buoy.withRules buoyRules).withRules [] := rfl
  have page : buoy.page .qti21 = (buoy.withRules buoyRules).page .qti21 := rfl
  have branched : buoy.withRules [] = (buoy.withRules branchedBuoyRules).withRules [] := rfl
  have different : buoy.synthesis.rules ≠ branchedBuoyRules := by
    simp [buoy, branchedBuoyRules]
  refine ⟨⟨alike, page, ?_⟩, branched, different, fun same => different ?_⟩
  · exact page_tells_rules .qti21 buoy (buoy.withRules buoyRules) alike page
  · exact page_tells_rules .qti21 buoy (buoy.withRules branchedBuoyRules) branched same

end QuizPackage
