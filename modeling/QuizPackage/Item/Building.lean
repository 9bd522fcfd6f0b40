import QuizPackage.Item
import QuizPackage.Item.AssetLinks
import QuizPackage.Item.Issuing

namespace QuizPackage

def shortAnswerLength : Nat := 20

def numberLength : Nat := 10

def essayLines : Nat := 10

/-- How a question is answered. The order of true and false is kept, whatever is shuffled. -/
def Question.interaction (question : Question) (identifiers : ItemIdentifiers) (shuffle : Bool) :
    Interaction :=
  let response := identifiers.response
  let offer (choices : List Choice) : List SimpleChoice :=
    (choices.zip identifiers.choices).map fun (choice, identifier) =>
      ⟨identifier, linkAssets question.assets choice.text⟩
  match question.kind with
  | .singleChoice choices => .choice response shuffle 1 (offer choices)
  | .trueFalse choices => .choice response false 1 (offer choices)
  | .multipleAnswer choices => .choice response shuffle choices.length (offer choices)
  | .shortAnswer _ => .textEntry response shortAnswerLength
  | .numerical _ => .textEntry response numberLength
  | .essay => .extendedText response essayLines
  | .fileUpload => .upload response

def FeedbackParts.inItemOrder {α : Type} (parts : FeedbackParts α) : List (Option α) :=
  parts.correct :: parts.incorrect :: parts.choices ++ [parts.general]

def Question.feedbackBlocks (question : Question) (identifiers : ItemIdentifiers) :
    List FeedbackBlock :=
  match identifiers.feedback with
  | none => []
  | some outcome =>
      let parts := identifiers.blocks.inItemOrder.zip question.feedbackBodies.inItemOrder
      parts.filterMap fun
        | (some identifier, some body) =>
            some ⟨identifier, outcome, linkAssets question.assets body⟩
        | _ => none

/-- The item of a question. A question without a title is called by its place in the quiz. -/
def Question.item (question : Question) (identifiers : ItemIdentifiers) (synthesis : Synthesis)
    (location : Location) (shuffle : Bool) : Item :=
  { identifier := identifiers.item
    title := (Text.present? question.title).getD ("Question " ++ location.ordinal)
    kind := question.kind.name
    points := question.points
    synthesis := synthesis
    body := .question (linkAssets question.assets question.prompt)
      (question.interaction identifiers shuffle)
    feedback := question.feedbackBlocks identifiers
    assets := question.assets.eraseDups
    answerKey := question.kind.answerKey identifiers }

/-- The item of a region of text, which scores nothing. -/
def TextRegion.item (region : TextRegion) (identifier score : Identifier) : Item :=
  let title := Text.present? region.title
  { identifier := identifier
    title := title.getD "Text"
    kind := "text"
    points := 0.0
    synthesis :=
      { declarations := { response := none, outcomes := [scoreOutcome score none false] }
        rules := [] }
    body := .text title (linkAssets region.assets region.text)
    feedback := []
    assets := region.assets.eraseDups
    answerKey := none }

/-- Returns an item in which everything fits together. -/
def checkedItem (names : List String) (item : Item) : Issuing Item :=
  match improperAssetName? names with
  | some fault => Issuing.stop (.integrity fault)
  | none =>
      match item.fault? with
      | some fault => Issuing.stop (.integrity fault)
      | none => pure item

def buildItem (question : Question) (location : Location) (shuffle : Bool) : Issuing Item := do
  let identifiers ← issueItemIdentifiers question location
  match synthesize question identifiers location with
  | .error problem => Issuing.stop problem
  | .ok synthesis =>
      checkedItem question.assets (question.item identifiers synthesis location shuffle)

def buildTextItem (region : TextRegion) (entry : Nat) : Issuing Item := do
  let identifier ← issueFor (.text entry) .textItem region.title
  let score ← issueVariable identifier "SCORE"
  checkedItem region.assets (region.item identifier score)

end QuizPackage
