import QuizPackage.Proofs.Markup.WellFormed
import QuizPackage.Proofs.Page.Manifest
import QuizPackage.Proofs.Page.Rules
import QuizPackage.Proofs.Page.Test

namespace QuizPackage

open Markup

variable {format : Format}

def ItemBody.fragments : ItemBody → List String
  | .question prompt interaction => prompt :: interaction.choices.map SimpleChoice.body
  | .text _ markup => [markup]

/-- The markup that an item is given. -/
def Item.fragments (item : Item) : List String :=
  item.body.fragments ++ item.feedback.map FeedbackBlock.body

theorem valueBlocks_legible (values : List String) :
    ∀ block ∈ valueBlocks values, block.Legible :=
  List.forall_mem_map.mpr fun value _ => .text rfl _ value

/-- The values of a declaration stand in an element of their own. -/
theorem declaredValues_legible {name inner : ElementName} (bare : name.holdsText = false)
    (innerBare : inner.holdsText = false) (attributes : List Attribute) (values : List String) :
    (Block.element name attributes [.element inner [] (valueBlocks values)]).Legible :=
  .element bare _ (List.forall_mem_singleton.mpr
    (.element innerBare _ (valueBlocks_legible values)))

theorem ResponseDeclaration.block_legible (declaration : ResponseDeclaration) :
    declaration.block.Legible := by
  unfold ResponseDeclaration.block
  dsimp only
  split
  · exact .empty _ _
  · exact declaredValues_legible rfl rfl _ _

theorem OutcomeDeclaration.block_legible (format : Format) (declaration : OutcomeDeclaration) :
    (declaration.block format).Legible := by
  unfold OutcomeDeclaration.block
  dsimp only
  split
  · exact .empty _ _
  · exact declaredValues_legible rfl rfl _ _

theorem Interaction.fragments_blocks (interaction : Interaction) (prompt : String) :
    fragmentsOfBlocks (interaction.blocks prompt) =
      prompt :: interaction.choices.map SimpleChoice.body := by
  cases interaction with
  | choice response shuffle maxChoices choices =>
      have offered := fragmentsOfBlocks_map
        (fun choice : SimpleChoice => Block.fragments_fragment .simpleChoice
          [⟨.identifier, choice.identifier.text⟩] choice.body) choices
      simp only [Interaction.blocks, Interaction.choices, fragmentsOfBlocks, Block.fragments,
        Block.fragments_fragment, List.append_nil, List.singleton_append]
      exact congrArg (prompt :: ·) offered
  | textEntry response expectedLength =>
      simp [Interaction.blocks, Interaction.choices, fragmentsOfBlocks, Block.fragments,
        Block.fragments_fragment, Inline.fragments, fragmentsOfInlines]
  | extendedText response expectedLines | upload response =>
      simp [Interaction.blocks, Interaction.choices, fragmentsOfBlocks, Block.fragments,
        Block.fragments_fragment]

theorem ItemBody.fragments_blocks (body : ItemBody) :
    fragmentsOfBlocks body.blocks = body.fragments := by
  cases body with
  | question prompt interaction => exact interaction.fragments_blocks prompt
  | text title markup =>
      cases title <;>
        simp [ItemBody.blocks, ItemBody.fragments, fragmentsOfBlocks, Block.fragments, Block.text,
          Inline.fragments, fragmentsOfInlines]

theorem FeedbackBlock.fragments_block (format : Format) (block : FeedbackBlock) :
    (block.block format).fragments = [block.body] := by
  cases format with
  | qti21 => exact Block.fragments_fragment _ _ _
  | qti30 =>
      simp [FeedbackBlock.block, Block.fragments, fragmentsOfBlocks, Block.fragments_fragment]

theorem Test.page_wellFormed (format : Format) (test : Test) :
    WellFormed [] (test.page format) :=
  renderDocument_wellFormed_of_legible (test.block_legible format)

theorem Manifest.page_wellFormed (format : Format) (manifest : Manifest) :
    WellFormed [] (manifest.page format) :=
  renderDocument_wellFormed_of_legible (manifest.block_legible format)

/-- The fragments in the page of an item are those that the item is given, in their order. -/
theorem Item.fragments_block (format : Format) (item : Item) :
    (item.block format).fragments = item.fragments := by
  have responses : fragmentsOfBlocks
      (item.synthesis.declarations.response.toList.map ResponseDeclaration.block) = [] :=
    fragmentsOfBlocks_of_legible (List.forall_mem_map.mpr fun declaration _ =>
      declaration.block_legible)
  have outcomes : fragmentsOfBlocks
      (item.synthesis.declarations.outcomes.map (OutcomeDeclaration.block format)) = [] :=
    fragmentsOfBlocks_of_legible (List.forall_mem_map.mpr fun declaration _ =>
      declaration.block_legible format)
  have rules : fragmentsOfBlocks (processingBlocks item.synthesis.rules) = [] :=
    fragmentsOfBlocks_of_legible (processingBlocks_legible _)
  have feedback := fragmentsOfBlocks_map (FeedbackBlock.fragments_block format) item.feedback
  have body : fragmentsOfBlocks [.element .itemBody [] item.body.blocks] = item.body.fragments := by
    rw [fragmentsOfBlocks, fragmentsOfBlocks, List.append_nil, Block.fragments,
      item.body.fragments_blocks]
  simp only [Item.block, Block.fragments, fragmentsOfBlocks_append, responses, outcomes, rules,
    feedback, body, List.nil_append, List.append_nil, Item.fragments]

theorem Item.page_wellFormed (format : Format) (item : Item)
    (balanced : ∀ markup ∈ item.fragments, Balanced markup) :
    WellFormed item.fragments (item.page format) := by
  rw [← item.fragments_block format] at balanced ⊢
  exact renderDocument_wellFormed format _ _ _ balanced

/-- Every page is the declaration and one element. Its tags match, in fragments and around them; the
values of its attributes stand in double quotes, and neither they nor the texts hold a character of
markup. Only the fragments of an item are excepted, which stand in its page once each and in their
order; and where they are written by the same grammar, nothing is. -/
theorem pages_are_well_formed (format : Format) :
    (∀ test : Test, WellFormed [] (test.page format)) ∧
    (∀ manifest : Manifest, WellFormed [] (manifest.page format)) ∧
    ∀ item : Item,
      ((∀ markup ∈ item.fragments, Balanced markup) →
        WellFormed item.fragments (item.page format)) ∧
      ((∀ markup ∈ item.fragments, Content [] markup) → WellFormed [] (item.page format)) := by
  refine ⟨Test.page_wellFormed format, Manifest.page_wellFormed format,
    fun item => ⟨item.page_wellFormed format, fun written => ?_⟩⟩
  have balanced : ∀ markup ∈ item.fragments, Balanced markup :=
    fun markup member => (written markup member).balanced_of_bare
  exact (item.page_wellFormed format balanced).of_fragments written

/-- A question whose choices and feedback bring markup of their own, with a comment and a value in
single quotes. -/
def lantern : Item :=
  { identifier := ⟨"lantern"⟩
    title := "Which \"light\" is <lit>?"
    kind := "single_choice"
    points := 1.0
    synthesis :=
      { declarations :=
          { response := some ⟨⟨"RESPONSE"⟩, .single, .identifier, ["red"]⟩
            outcomes := [⟨⟨"SCORE"⟩, .score, .single, .number, some "0", none, false⟩] }
        rules := [.assign ⟨"SCORE"⟩ (.text "1 < 2 & 3")] }
    body := .question "<p title='a > b'>Look<br/> out!</p>"
      (.choice ⟨"RESPONSE"⟩ false 1 [⟨⟨"red"⟩, "<b>Red</b>"⟩, ⟨⟨"green"⟩, "Green"⟩])
    feedback := [⟨⟨"feedback"⟩, ⟨"FEEDBACK"⟩, "<!-- <i> --><i>Dark &amp; cold</i>"⟩]
    assets := []
    answerKey := some (.identifier "red") }

/-- A region of text. -/
def lookout : Item :=
  { identifier := ⟨"lookout"⟩
    title := "Lookout"
    kind := "text"
    points := 0.0
    synthesis := { declarations := { response := none, outcomes := [] }, rules := [] }
    body := .text none "<p>Look out!</p>"
    feedback := []
    assets := []
    answerKey := none }

theorem lantern_page_well_formed :
    WellFormed lantern.fragments (lantern.page .qti30) ∧
    WellFormed [] (lookout.page .qti21) := by
  have balanced : ∀ markup ∈ lantern.fragments, Balanced markup := by decide
  have written : ∀ markup ∈ lookout.fragments, Content [] markup := by
    refine List.forall_mem_singleton.mpr ?_
    have inner : Content [] "Look out!" := .text (escaped_of_plain (by decide))
    have proper : Proper "p" [] :=
      ⟨rfl, fun _ member => absurd member List.not_mem_nil,
        fun _ member => absurd member List.not_mem_nil⟩
    exact .element proper inner
  exact ⟨((pages_are_well_formed .qti30).2.2 lantern).1 balanced,
    ((pages_are_well_formed .qti21).2.2 lookout).2 written⟩

end QuizPackage
