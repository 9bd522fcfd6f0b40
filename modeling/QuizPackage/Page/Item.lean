import QuizPackage.Item
import QuizPackage.Page.Addresses
import QuizPackage.Page.Rules

namespace QuizPackage

open Markup

/-- Values, each in an element of its own. -/
def valueBlocks (values : List String) : List Block :=
  values.map (.text .value [])

/-- What every declaration says of its variable. -/
def variableAttributes (identifier : Identifier) (cardinality : Cardinality)
    (baseType : BaseType) : List Attribute :=
  [
    ⟨.identifier, identifier.text⟩,
    ⟨.cardinality, cardinality.name⟩,
    ⟨.baseType, baseType.name⟩]

def ResponseDeclaration.block (declaration : ResponseDeclaration) : Block :=
  let attributes := variableAttributes declaration.identifier declaration.cardinality
    declaration.baseType
  match declaration.correct with
  | [] => .empty .responseDeclaration attributes
  | values =>
      .element .responseDeclaration attributes
        [.element .correctResponse [] (valueBlocks values)]

def humanScoring : Format → Attribute
  | .qti21 => ⟨.interpretation, "human-scored"⟩
  | .qti30 => ⟨.externalScored, "human"⟩

def OutcomeDeclaration.block (format : Format) (declaration : OutcomeDeclaration) : Block :=
  let attributes :=
    variableAttributes declaration.identifier declaration.cardinality declaration.baseType ++
      (if declaration.humanScored then [humanScoring format] else []) ++
      declaration.normalMaximum.toList.map fun greatest =>
        ⟨.normalMaximum, Number.literal greatest⟩
  match declaration.defaultValue with
  | none => .empty .outcomeDeclaration attributes
  | some value =>
      .element .outcomeDeclaration attributes [.element .defaultValue [] (valueBlocks [value])]

def InteractionKind.element : InteractionKind → ElementName
  | .choice => .choiceInteraction
  | .textEntry => .textEntryInteraction
  | .extendedText => .extendedTextInteraction
  | .upload => .uploadInteraction

def SimpleChoice.block (choice : SimpleChoice) : Block :=
  .fragment .simpleChoice [⟨.identifier, choice.identifier.text⟩] choice.body

/-- An interaction as markup. The entry of a text stands within a paragraph below its prompt. -/
def Interaction.blocks (interaction : Interaction) (prompt : String) : List Block :=
  let name := interaction.kind.element
  let response : Attribute := ⟨.responseIdentifier, interaction.response.text⟩
  let asked : Block := .fragment .itemPrompt [] prompt
  match interaction with
  | .choice _ shuffle maxChoices choices =>
      let attributes := [
        response,
        ⟨.shuffle, flag shuffle⟩,
        ⟨.maxChoices, toString maxChoices⟩]
      [.element name attributes (asked :: choices.map SimpleChoice.block)]
  | .textEntry _ expectedLength =>
      let attributes := [response, ⟨.expectedLength, toString expectedLength⟩]
      [
        .fragment .division [] prompt,
        .line (.element .paragraph [] [.element name attributes []])]
  | .extendedText _ expectedLines =>
      [.element name [response, ⟨.expectedLines, toString expectedLines⟩] [asked]]
  | .upload _ => [.element name [response] [asked]]

def ItemBody.blocks : ItemBody → List Block
  | .question prompt interaction => interaction.blocks prompt
  | .text title markup =>
      let heading := title.toList.map (Block.text .heading [])
      [.element .division [⟨.styleClass, "text-region"⟩] (heading ++ [.line (.fragment markup)])]

def FeedbackBlock.block (format : Format) (block : FeedbackBlock) : Block :=
  let attributes := [
    ⟨.outcomeIdentifier, block.outcome.text⟩,
    ⟨.identifier, block.identifier.text⟩,
    ⟨.showHide, "show"⟩]
  match format with
  | .qti21 => .fragment .modalFeedback attributes block.body
  | .qti30 => .element .modalFeedback attributes [.fragment .contentBody [] block.body]

def Item.block (format : Format) (item : Item) : Block :=
  let declarations := item.synthesis.declarations
  let attributes := contentAttributes format ++ [
    ⟨.identifier, item.identifier.text⟩,
    ⟨.title, item.title⟩,
    ⟨.adaptive, "false"⟩,
    ⟨.timeDependent, "false"⟩]
  .element .assessmentItem attributes (
    declarations.response.toList.map ResponseDeclaration.block ++
    declarations.outcomes.map (OutcomeDeclaration.block format) ++
    [.element .itemBody [] item.body.blocks] ++
    processingBlocks item.synthesis.rules ++
    item.feedback.map (FeedbackBlock.block format))

def Item.page (format : Format) (item : Item) : String :=
  renderDocument format (item.block format)

end QuizPackage
