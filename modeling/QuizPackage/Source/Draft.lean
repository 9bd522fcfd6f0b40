import QuizPackage.Quiz
import QuizPackage.Source.Field

/-!
# Drafts

A quiz as its source writes it: entries are records with one set of fields for all kinds, and the
kind of an entry is a text that may mean nothing yet.
-/

namespace QuizPackage.Source

structure DraftChoice where
  label : Option String
  text : String
  correct : Bool
  feedback : Option String

structure DraftEntry where
  kind : String
  title : Option String
  prompt : String
  points : Option Float
  choices : List DraftChoice
  answer : Option Bool
  answers : List String
  numeric : List NumericAnswer
  feedback : Feedback
  assets : List String
  text : String
  pick : Option Nat
  questions : List DraftEntry

structure DraftQuiz where
  title : String
  description : String
  entries : List DraftEntry

def DraftChoice.take? (grammar : Grammar) (value : Value) : Option DraftChoice := do
  let fields ← fields? grammar ["label", "text", "correct", "feedback"] value
  return {
    label := ← optional? text? "label" fields
    text := ← required? text? "text" fields
    correct := ← withDefault? false boolean? "correct" fields
    feedback := ← optional? text? "feedback" fields }

/-- Feedback that says nothing. -/
def emptyFeedback : Feedback := ⟨none, none, none⟩

def takeFeedback? (grammar : Grammar) (value : Value) : Option Feedback := do
  let fields ← fields? grammar ["general", "correct", "incorrect"] value
  return {
    general := ← optional? text? "general" fields
    correct := ← optional? text? "correct" fields
    incorrect := ← optional? text? "incorrect" fields }

def takeRange? (members : List (String × Value)) : Option NumericAnswer := do
  let fields ← knownMembers? ["min", "max"] members
  let least ← required? number? "min" fields
  let greatest ← required? number? "max" fields
  return .range least greatest

def takeExact? (members : List (String × Value)) : Option NumericAnswer := do
  let fields ← knownMembers? ["value", "tolerance"] members
  let value ← required? number? "value" fields
  let tolerance ← withDefault? 0.0 number? "tolerance" fields
  return .exact value tolerance

/-- Takes an accepted number: a range if there is one, else a value with a tolerance. It is always
a table, and the whole of it must be readable. -/
def takeNumeric? (value : Value) : Option NumericAnswer :=
  match value with
  | .table members =>
      if value.readable then takeRange? members <|> takeExact? members else none
  | _ => none

def entryFields : List String :=
  ["kind", "title", "prompt", "points", "choices", "answer", "answers", "numeric", "feedback",
    "assets", "text", "pick", "questions"]

/-- Takes an entry. Every entry inside another lies deeper, so its `height` bounds the recursion. -/
def DraftEntry.take? (grammar : Grammar) : (height : Nat) → Value → Option DraftEntry
  | 0, _ => none
  | height + 1, value => do
      let fields ← fields? grammar entryFields value
      return {
        kind := ← required? text? "kind" fields
        title := ← optional? text? "title" fields
        prompt := ← withDefault? "" text? "prompt" fields
        points := ← optional? number? "points" fields
        choices := ← withDefault? [] (list? (DraftChoice.take? grammar)) "choices" fields
        answer := ← optional? boolean? "answer" fields
        answers := ← withDefault? [] (list? text?) "answers" fields
        numeric := ← withDefault? [] (list? takeNumeric?) "numeric" fields
        feedback := ← withDefault? emptyFeedback (takeFeedback? grammar) "feedback" fields
        assets := ← withDefault? [] (list? text?) "assets" fields
        text := ← withDefault? "" text? "text" fields
        pick := ← optional? count? "pick" fields
        questions :=
          ← withDefault? [] (list? (DraftEntry.take? grammar height)) "questions" fields }

def takeHeading? (grammar : Grammar) (value : Value) : Option (String × String) := do
  let fields ← fields? grammar ["title", "description"] value
  let title ← required? text? "title" fields
  let description ← withDefault? "" text? "description" fields
  return (title, description)

def DraftQuiz.take? (grammar : Grammar) (value : Value) : Option DraftQuiz := do
  let fields ← fields? grammar ["quiz", "entries"] value
  let (title, description) ← required? (takeHeading? grammar) "quiz" fields
  let entries ← withDefault? [] (list? (DraftEntry.take? grammar value.height)) "entries" fields
  return ⟨title, description, entries⟩

end QuizPackage.Source
