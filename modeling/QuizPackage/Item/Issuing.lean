import QuizPackage.Identifier.Registry
import QuizPackage.Processing.Synthesis

namespace QuizPackage

def issueBlock (location : Location) (slot : FeedbackSlot) (body : Option String) :
    Issuing (Option Identifier) :=
  match body with
  | none => pure none
  | some _ => some <$> issueFor (.feedback location slot) .feedback none

def issueBlocks (location : Location) (bodies : FeedbackParts String) :
    Issuing (FeedbackParts Identifier) := do
  let general ← issueBlock location .general bodies.general
  let correct ← issueBlock location .correct bodies.correct
  let incorrect ← issueBlock location .incorrect bodies.incorrect
  let choices ← bodies.choices.zipIdx.mapM fun (body, index) =>
    issueBlock location (.choice index) body
  return ⟨general, correct, incorrect, choices⟩

/-- Issues the identifiers of a question: its item, its variables, its choices and its feedback
blocks. They are bound to the location of the question, where other documents look them up. -/
def issueItemIdentifiers (question : Question) (location : Location) :
    Issuing ItemIdentifiers := do
  let item ← issueFor (.question location) .item question.title
  let response ← issueVariable item "RESPONSE"
  let score ← issueVariable item "SCORE"
  let choices ← (List.range question.kind.choices.length).mapM fun index =>
    issueFor (.choice location index) .choice none
  let blocks ← issueBlocks location question.feedbackBodies
  let feedback ←
    if blocks.isEmpty then pure none
    else some <$> issueVariable item "FEEDBACK"
  return ⟨item, response, score, feedback, choices, blocks⟩

end QuizPackage
