import QuizPackage.Quiz

namespace QuizPackage

/-- A value for each part of the feedback on a question that is present. -/
structure FeedbackParts (α : Type) where
  general : Option α
  correct : Option α
  incorrect : Option α
  /-- One for each choice of the question. -/
  choices : List (Option α)

def FeedbackParts.isEmpty {α : Type} (parts : FeedbackParts α) : Bool :=
  parts.general.isNone && parts.correct.isNone && parts.incorrect.isNone &&
    parts.choices.all Option.isNone

/-- The feedback on a question that is not blank. Where a person scores the responses, none of them
is known to be correct or incorrect. -/
def Question.feedbackBodies (question : Question) : FeedbackParts String :=
  let feedback := question.feedback
  let scored := question.kind.autoScored
  { general := Text.present? feedback.general
    correct := (Text.present? feedback.correct).filter fun _ => scored
    incorrect := (Text.present? feedback.incorrect).filter fun _ => scored
    choices := question.kind.choices.map fun choice => Text.present? choice.feedback }

end QuizPackage
