import QuizPackage.Processing.Evaluation
import QuizPackage.Quiz.FeedbackParts
import QuizPackage.Quiz.Validity

namespace QuizPackage

structure ItemIdentifiers where
  item : Identifier
  response : Identifier
  score : Identifier
  /-- The outcome that holds the feedback to show, if there is any. -/
  feedback : Option Identifier
  choices : List Identifier
  blocks : FeedbackParts Identifier

/-- The identifiers of the correct choices. -/
def correctChoices (choices : List Choice) (identifiers : List Identifier) : List Identifier :=
  ((choices.zip identifiers).filter fun (choice, _) => choice.correct).map fun (_, identifier) =>
    identifier

def QuestionKind.declaredResponse (kind : QuestionKind) (identifiers : ItemIdentifiers) :
    ResponseDeclaration :=
  let declare := ResponseDeclaration.mk identifiers.response
  match kind with
  | .singleChoice choices | .trueFalse choices =>
      declare .single .identifier
        ((correctChoices choices identifiers.choices).map Identifier.text)
  | .multipleAnswer choices =>
      declare .multiple .identifier
        ((correctChoices choices identifiers.choices).map Identifier.text)
  | .shortAnswer answers => declare .single .text ((acceptedTexts answers).take 1)
  | .numerical answers =>
      declare .single .number
        ((answers.take 1).map fun answer => Number.literal answer.representative)
  | .essay => declare .single .text []
  | .fileUpload => declare .single .file []

def isChoice (response choice : Identifier) : Expr :=
  .matches (.read response) (.identifier choice)

def hasChoice (response choice : Identifier) : Expr :=
  .member (.identifier choice) (.read response)

/-- Whether a choice is in the response if it is correct, and only then. -/
def isRightlyTaken (response : Identifier) (choice : Choice) (identifier : Identifier) : Expr :=
  if choice.correct then hasChoice response identifier
  else .negation (hasChoice response identifier)

def isText (response : Identifier) (answer : String) : Expr :=
  .textMatch false (.read response) (.text answer)

def isWithin (response : Identifier) (answer : NumericAnswer) : Expr :=
  .all [
    .atLeast (.read response) (.number answer.least),
    .atMost (.read response) (.number answer.greatest)]

/-- When a response is correct. No condition decides it where a person scores the responses. -/
def QuestionKind.condition? (kind : QuestionKind) (identifiers : ItemIdentifiers) : Option Expr :=
  let response := identifiers.response
  match kind with
  | .singleChoice choices | .trueFalse choices =>
      (correctChoices choices identifiers.choices).head?.map (isChoice response)
  | .multipleAnswer choices =>
      some (.all ((choices.zip identifiers.choices).map fun (choice, identifier) =>
        isRightlyTaken response choice identifier))
  | .shortAnswer answers => some (.any ((acceptedTexts answers).map (isText response)))
  | .numerical answers => some (.any (answers.map (isWithin response)))
  | .essay | .fileUpload => none

def ItemIdentifiers.shown (identifiers : ItemIdentifiers) (block : Option Identifier) : List Rule :=
  match identifiers.feedback, block with
  | some feedback, some block =>
      [.assign feedback (.multiple [.read feedback, .identifier block])]
  | _, _ => []

/-- Scores a response: all points if the condition holds, and none otherwise. -/
def Question.scoringRules (question : Question) (identifiers : ItemIdentifiers) : List Rule :=
  match question.kind.condition? identifiers with
  | none => []
  | some condition =>
      let award (points : Float) : Rule := .assign identifiers.score (.number points)
      [.condition
        [.mk condition (award question.points :: identifiers.shown identifiers.blocks.correct)]
        (award 0.0 :: identifiers.shown identifiers.blocks.incorrect)]

def QuestionKind.choiceRules (kind : QuestionKind) (identifiers : ItemIdentifiers)
    (choice : Identifier) (block : Option Identifier) : List Rule :=
  let taken := if kind.selectsSeveral then hasChoice else isChoice
  match identifiers.shown block with
  | [] => []
  | rules => [.condition [.mk (taken identifiers.response choice) rules] []]

/-- The rules of a question: the score, then the feedback on choices, then that on the question as
a whole. -/
def Question.rules (question : Question) (identifiers : ItemIdentifiers) : List Rule :=
  question.scoringRules identifiers ++
    (identifiers.choices.zip identifiers.blocks.choices).flatMap (fun (choice, block) =>
      question.kind.choiceRules identifiers choice block) ++
    identifiers.shown identifiers.blocks.general

def scoreOutcome (score : Identifier) (normalMaximum : Option Float) (humanScored : Bool) :
    OutcomeDeclaration :=
  ⟨score, .score, .single, .number, some (Number.literal 0.0), normalMaximum, humanScored⟩

def feedbackOutcome (feedback : Identifier) : OutcomeDeclaration :=
  ⟨feedback, .feedback, .multiple, .identifier, none, none, false⟩

def Question.outcomes (question : Question) (identifiers : ItemIdentifiers) :
    List OutcomeDeclaration :=
  let greatest := if 0.0 < question.points then some question.points else none
  scoreOutcome identifiers.score greatest (!question.kind.autoScored) ::
    identifiers.feedback.toList.map feedbackOutcome

def Question.synthesis (question : Question) (identifiers : ItemIdentifiers) : Synthesis :=
  { declarations :=
      { response := some (question.kind.declaredResponse identifiers)
        outcomes := question.outcomes identifiers }
    rules := question.rules identifiers }

/-- The declarations and the rules of a question that can be scored. The points are checked first,
then the number of identifiers, then the answer data. -/
def synthesize (question : Question) (identifiers : ItemIdentifiers) (location : Location) :
    Except Problem Synthesis :=
  let choices := question.kind.choices.length
  let issued := identifiers.choices.length
  match pointsFault? question.points with
  | some fault => .error (.invalidQuestion location fault)
  | none =>
      if choices != 0 && choices != issued then
        .error (.integrity (.choiceCount location choices issued))
      else
        match question.kind.fault? with
        | some fault => .error (.invalidQuestion location fault)
        | none => .ok (question.synthesis identifiers)

/-- The response that earns all points, if one can be stated. -/
def QuestionKind.answerKey (kind : QuestionKind) (identifiers : ItemIdentifiers) :
    Option Response :=
  match kind with
  | .singleChoice choices | .trueFalse choices =>
      (correctChoices choices identifiers.choices).head?.map fun choice => .identifier choice.text
  | .multipleAnswer choices =>
      some (.identifiers ((correctChoices choices identifiers.choices).map Identifier.text))
  | .shortAnswer answers => (acceptedTexts answers).head?.map .text
  | .numerical answers => answers.head?.map fun answer => .number answer.representative
  | .essay | .fileUpload => none

end QuizPackage
