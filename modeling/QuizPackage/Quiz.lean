import QuizPackage.Location
import QuizPackage.Text.Blank

namespace QuizPackage

structure Choice where
  label : String
  text : String
  correct : Bool
  feedback : Option String

def Choice.plain (text : String) (correct : Bool) : Choice :=
  ⟨"", text, correct, none⟩

inductive NumericAnswer where
  | range (least greatest : Float)
  | exact (value tolerance : Float)

def NumericAnswer.least : NumericAnswer → Float
  | .range least _ => least
  | .exact value tolerance => value - tolerance

def NumericAnswer.greatest : NumericAnswer → Float
  | .range _ greatest => greatest
  | .exact value tolerance => value + tolerance

def NumericAnswer.representative : NumericAnswer → Float
  | .range least greatest => least + (greatest - least) / 2.0
  | .exact value _ => value

/-- What a question asks for, with the data that decides which responses are correct. -/
inductive QuestionKind where
  | singleChoice (choices : List Choice)
  | trueFalse (choices : List Choice)
  | multipleAnswer (choices : List Choice)
  | shortAnswer (answers : List String)
  | numerical (answers : List NumericAnswer)
  | essay
  | fileUpload

def QuestionKind.statement (truth : Bool) : QuestionKind :=
  .trueFalse [.plain "True" truth, .plain "False" (!truth)]

def QuestionKind.name : QuestionKind → String
  | .singleChoice _ => "single_choice"
  | .trueFalse _ => "true_false"
  | .multipleAnswer _ => "multiple_answer"
  | .shortAnswer _ => "short_answer"
  | .numerical _ => "numerical"
  | .essay => "essay"
  | .fileUpload => "file_upload"

/-- The choices of a kind; kinds that offer none have an empty list. -/
def QuestionKind.choices : QuestionKind → List Choice
  | .singleChoice choices | .trueFalse choices | .multipleAnswer choices => choices
  | _ => []

/-- Whether responses are scored without a person. -/
def QuestionKind.autoScored : QuestionKind → Bool
  | .essay | .fileUpload => false
  | _ => true

def QuestionKind.selectsSeveral : QuestionKind → Bool
  | .multipleAnswer _ => true
  | _ => false

structure Feedback where
  general : Option String
  correct : Option String
  incorrect : Option String

/-- One scored question. -/
structure Question where
  title : Option String
  prompt : String
  points : Float
  kind : QuestionKind
  feedback : Feedback
  assets : List String

/-- Questions of which each attempt picks some at random. -/
structure Group where
  title : Option String
  pick : Nat
  questions : List Question

/-- Text between questions, which is not scored. -/
structure TextRegion where
  title : Option String
  text : String
  assets : List String

/-- A top-level entry of a quiz. -/
inductive Entry where
  | question (single : Question)
  | group (pool : Group)
  | text (region : TextRegion)

/-- A whole quiz. Its prompts, texts and feedback are fragments of markup that are already
rendered. -/
structure Quiz where
  title : String
  description : String
  entries : List Entry

def Entry.itemCount : Entry → Nat
  | .question _ | .text _ => 1
  | .group pool => pool.questions.length

def Quiz.itemCount (quiz : Quiz) : Nat :=
  (quiz.entries.map Entry.itemCount).foldr (· + ·) 0

def Entry.questionsAt (index : Nat) : Entry → List (Location × Question)
  | .question single => [(.top index, single)]
  | .group pool =>
      pool.questions.zipIdx.map fun (single, member) => (.inGroup index member, single)
  | .text _ => []

def Quiz.questionsAt (quiz : Quiz) : List (Location × Question) :=
  quiz.entries.zipIdx.flatMap fun (entry, index) => entry.questionsAt index

def Entry.assets : Entry → List String
  | .question single => single.assets
  | .group pool => pool.questions.flatMap Question.assets
  | .text region => region.assets

def Quiz.assets (quiz : Quiz) : List String :=
  quiz.entries.flatMap Entry.assets

structure Asset where
  bytes : ByteArray
  mediaType : String

abbrev AssetMap := List (String × Asset)

end QuizPackage
