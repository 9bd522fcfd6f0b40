import QuizPackage.Data.Processing
import QuizPackage.Manifest
import QuizPackage.Package
import QuizPackage.Test

namespace QuizPackage

def interactionData (kinds : List InteractionKind) : Data :=
  .texts (kinds.map InteractionKind.name)

def SimpleChoice.data (choice : SimpleChoice) : Data :=
  .record [("identifier", choice.identifier.data), ("body", .text choice.body)]

def Interaction.details : Interaction → List (String × Data)
  | .choice _ shuffle maxChoices choices => [
      ("shuffle", .truth shuffle),
      ("max_choices", .count maxChoices),
      ("choices", .list (choices.map SimpleChoice.data))]
  | .textEntry _ expectedLength => [("expected_length", .count expectedLength)]
  | .extendedText _ expectedLines => [("expected_lines", .count expectedLines)]
  | .upload _ => []

def Interaction.data (interaction : Interaction) : Data :=
  .record (
    ("interaction", .text interaction.kind.name) ::
    ("response", interaction.response.data) ::
    interaction.details)

def ItemBody.data : ItemBody → Data
  | .question prompt interaction =>
      .record [
        ("body", .text "question"),
        ("prompt", .text prompt),
        ("interaction", interaction.data)]
  | .text title markup =>
      .record [
        ("body", .text "text"),
        ("title", .optional .text title),
        ("html", .text markup)]

def FeedbackBlock.data (block : FeedbackBlock) : Data :=
  .record [
    ("identifier", block.identifier.data),
    ("outcome", block.outcome.data),
    ("body", .text block.body)]

/-- An item as data. The answer key is not part of it. -/
def Item.data (item : Item) : Data :=
  .record [
    ("identifier", item.identifier.data),
    ("title", .text item.title),
    ("kind", .text item.kind),
    ("points", .measure item.points),
    ("synthesis", item.synthesis.data),
    ("body", item.body.data),
    ("feedback", .list (item.feedback.map FeedbackBlock.data)),
    ("assets", .texts item.assets)]

def SessionControl.data (session : SessionControl) : Data :=
  .record [
    ("max_attempts", .count session.maxAttempts),
    ("show_feedback", .truth session.showFeedback),
    ("show_solution", .truth session.showSolution),
    ("allow_comment", .truth session.allowComment),
    ("allow_skipping", .truth session.allowSkipping),
    ("validate_responses", .truth session.validateResponses)]

def ItemReference.fields (reference : ItemReference) : List (String × Data) := [
  ("identifier", reference.identifier.data),
  ("href", .text reference.href)]

def SectionPart.data : SectionPart → Data
  | .item reference => .record (("part", .text "item") :: reference.fields)
  | .group pool =>
      .record [
        ("part", .text "group"),
        ("identifier", pool.identifier.data),
        ("title", .text pool.title),
        ("select", .count pool.select),
        ("shuffle", .truth pool.shuffle),
        ("items", .list (pool.items.map fun reference => .record reference.fields))]

def Test.data (test : Test) : Data :=
  .record [
    ("identifier", test.identifier.data),
    ("title", .text test.title),
    ("score", test.score.data),
    ("part", test.part.data),
    ("navigation", .text test.navigation.name),
    ("submission", .text test.submission.name),
    ("session", test.session.data),
    ("section", test.rootSection.data),
    ("section_title", .text test.rootTitle),
    ("parts", .list (test.parts.map SectionPart.data))]

def Resource.data (resource : Resource) : Data :=
  .record [
    ("identifier", resource.identifier.data),
    ("kind", .text resource.kind.name),
    ("href", .text resource.href),
    ("interactions", interactionData resource.interactions),
    ("dependencies", .list (resource.dependencies.map Identifier.data)),
    ("media_type", .optional .text resource.mediaType)]

def Metadata.data (metadata : Metadata) : Data :=
  .record [
    ("title", .text metadata.title),
    ("description", .text metadata.description),
    ("generator", .text metadata.generator),
    ("version", .text metadata.version)]

def Manifest.data (manifest : Manifest) : Data :=
  .record [
    ("identifier", manifest.identifier.data),
    ("metadata", manifest.metadata.data),
    ("resources", .list (manifest.resources.map Resource.data))]

def ItemSummary.data (summary : ItemSummary) : Data :=
  .record [
    ("identifier", summary.identifier.data),
    ("title", .text summary.title),
    ("kind", .text summary.kind),
    ("points", .measure summary.points),
    ("interactions", interactionData summary.interactions),
    ("path", .text summary.path)]

def Summary.data (summary : Summary) : Data :=
  .record [
    ("format", .text summary.format.name),
    ("title", .text summary.title),
    ("test", summary.test.data),
    ("items", .list (summary.items.map ItemSummary.data)),
    ("groups", .count summary.groups),
    ("assets", .count summary.assets),
    ("files", .count summary.files)]

end QuizPackage
