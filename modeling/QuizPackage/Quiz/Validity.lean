import QuizPackage.Problem
import QuizPackage.Quiz

namespace QuizPackage

def pointsFault? (points : Float) : Option QuestionFault :=
  if !points.isFinite || points < 0.0 then some (.improperPoints points) else none

/-- The tolerance of an accepted number, if it is below zero. -/
def NumericAnswer.negativeTolerance? : NumericAnswer → Option Float
  | .exact _ tolerance => if tolerance < 0.0 then some tolerance else none
  | .range _ _ => none

def NumericAnswer.fault? (answer : NumericAnswer) : Option QuestionFault :=
  match answer.negativeTolerance? with
  | some tolerance => some (.negativeTolerance tolerance)
  | none =>
      if !answer.least.isFinite || !answer.greatest.isFinite then
        some .infiniteBounds
      else if answer.greatest < answer.least then
        some (.emptyRange answer.least answer.greatest)
      else
        none

/-- The accepted texts of a short answer without the blank characters around them; blank ones are
not accepted. -/
def acceptedTexts (answers : List String) : List String :=
  (answers.map Text.trim).filter (· != "")

def singleChoiceFault? (choices : List Choice) : Option QuestionFault :=
  match choices, choices.filter Choice.correct with
  | [], _ => some .noChoices
  | _, [] => some .noCorrectChoice
  | _, [_] => none
  | _, _ => some .severalCorrectChoices

/-- What is wrong with choices of which at least one is to be correct. -/
def multipleAnswerFault? (choices : List Choice) : Option QuestionFault :=
  match choices, choices.filter Choice.correct with
  | [], _ => some .noChoices
  | _, [] => some .noCorrectChoice
  | _, _ => none

def QuestionKind.fault? : QuestionKind → Option QuestionFault
  | .singleChoice choices | .trueFalse choices => singleChoiceFault? choices
  | .multipleAnswer choices => multipleAnswerFault? choices
  | .shortAnswer answers => if acceptedTexts answers == [] then some .noAcceptedTexts else none
  | .numerical [] => some .noAcceptedNumbers
  | .numerical answers => answers.findSome? NumericAnswer.fault?
  | .essay | .fileUpload => none

end QuizPackage
