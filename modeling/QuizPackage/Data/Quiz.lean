import QuizPackage.Data
import QuizPackage.Processing.Evaluation
import QuizPackage.Quiz.Warning

namespace QuizPackage

def Choice.data (choice : Choice) : Data :=
  .record [
    ("label", .text choice.label),
    ("text", .text choice.text),
    ("correct", .truth choice.correct),
    ("feedback", .optional .text choice.feedback)]

def NumericAnswer.kindName : NumericAnswer → String
  | .range _ _ => "range"
  | .exact _ _ => "exact"

def NumericAnswer.data (answer : NumericAnswer) : Data :=
  .record [
    ("type", .text answer.kindName),
    ("min", .measure answer.least),
    ("max", .measure answer.greatest),
    ("representative", .measure answer.representative)]

def QuestionKind.fields : QuestionKind → List (String × Data)
  | .singleChoice choices | .trueFalse choices | .multipleAnswer choices =>
      [("choices", .list (choices.map Choice.data))]
  | .shortAnswer answers => [("answers", .texts answers)]
  | .numerical answers => [("numeric", .list (answers.map NumericAnswer.data))]
  | .essay | .fileUpload => []

def Feedback.data (feedback : Feedback) : Data :=
  .record [
    ("general", .optional .text feedback.general),
    ("correct", .optional .text feedback.correct),
    ("incorrect", .optional .text feedback.incorrect)]

def Question.data (question : Question) : Data :=
  .record ([
    ("title", .optional .text question.title),
    ("prompt", .text question.prompt),
    ("points", .measure question.points),
    ("kind", .text question.kind.name),
    ("auto_scored", .truth question.kind.autoScored),
    ("feedback", question.feedback.data),
    ("assets", .texts question.assets)] ++ question.kind.fields)

def Group.data (pool : Group) : Data :=
  .record [
    ("title", .optional .text pool.title),
    ("pick", .count pool.pick),
    ("questions", .list (pool.questions.map Question.data))]

def TextRegion.data (region : TextRegion) : Data :=
  .record [
    ("title", .optional .text region.title),
    ("text", .text region.text),
    ("assets", .texts region.assets)]

def Entry.data : Entry → Data
  | .question single => .record [("question", single.data)]
  | .group pool => .record [("group", pool.data)]
  | .text region => .record [("text", region.data)]

def Quiz.data (quiz : Quiz) : Data :=
  .record [
    ("title", .text quiz.title),
    ("description", .text quiz.description),
    ("item_count", .count quiz.itemCount),
    ("entries", .list (quiz.entries.map Entry.data))]

def Location.data (location : Location) : Data :=
  .text location.describe

def Warning.data (warning : Warning) : Data :=
  .record [
    ("location", .optional Location.data warning.location),
    ("message", .text warning.concern.message)]

def Response.data : Response → Data
  | .empty => .record [("empty", .truth true)]
  | .identifier value => .record [("identifier", .text value)]
  | .identifiers values => .record [("identifiers", .texts values)]
  | .text value => .record [("text", .text value)]
  | .number value => .record [("number", .measure value)]

def Outcome.data (outcome : Outcome) : Data :=
  .record [("score", .measure outcome.score), ("feedback", .texts outcome.feedback)]

end QuizPackage
