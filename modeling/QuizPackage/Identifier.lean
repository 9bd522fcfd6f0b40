import QuizPackage.Location
import QuizPackage.Text.Ascending
import QuizPackage.Text.Quoted

namespace QuizPackage

/-- What the documents of a package refer to each other by. -/
structure Identifier where
  text : String
deriving DecidableEq, Repr

instance : LT Identifier := ⟨fun first second => first.text < second.text⟩

instance : DecidableLT Identifier := fun first second =>
  inferInstanceAs (Decidable (first.text < second.text))

inductive IdentifierKind where
  | manifest
  | test
  | testPart
  | testSection
  | item
  | textItem
  | choice
  | feedback
  | asset
  | variableName
deriving DecidableEq, Repr

def IdentifierKind.name : IdentifierKind → String
  | .manifest => "manifest"
  | .test => "test"
  | .testPart => "test_part"
  | .testSection => "section"
  | .item => "item"
  | .textItem => "text_item"
  | .choice => "choice"
  | .feedback => "feedback"
  | .asset => "asset"
  | .variableName => "variable"

/-- What identifiers of a kind start with when a hint gives them no start of their own. -/
def IdentifierKind.stem : IdentifierKind → String
  | .manifest => "manifest"
  | .test => "test"
  | .testPart => "part"
  | .testSection => "section"
  | .item => "item"
  | .textItem => "text"
  | .choice => "choice"
  | .feedback => "feedback"
  | .asset => "asset"
  | .variableName => "var"

def IdentifierKind.namesFile : IdentifierKind → Bool
  | .test | .item | .textItem | .asset => true
  | _ => false

inductive FeedbackSlot where
  | general
  | correct
  | incorrect
  | choice (index : Nat)
deriving DecidableEq, Repr

/-- The parts of a quiz, and of its package, that identifiers are bound to. -/
inductive Entity where
  | manifest
  | test
  | testPart
  | rootSection
  | question (location : Location)
  | group (entry : Nat)
  | text (entry : Nat)
  | choice (location : Location) (index : Nat)
  | feedback (location : Location) (slot : FeedbackSlot)
  | asset (name : String)
deriving DecidableEq, Repr

/-- The quiz entry that an entity comes from, if it comes from one. -/
def Entity.location? : Entity → Option Location
  | .question location => some location
  | .group entry => some (.top entry)
  | .text entry => some (.top entry)
  | .choice location _ => some location
  | .feedback location _ => some location
  | .manifest | .test | .testPart | .rootSection | .asset _ => none

def Location.form (location : Location) : String :=
  let member :=
    match location.member with
    | some member => "Some(" ++ toString member ++ ")"
    | none => "None"
  "EntryLocation \x7b entry: " ++ toString location.entry ++ ", member: " ++ member ++ " \x7d"

def FeedbackSlot.form : FeedbackSlot → String
  | .general => "General"
  | .correct => "Correct"
  | .incorrect => "Incorrect"
  | .choice index => "Choice(" ++ toString index ++ ")"

def Entity.form : Entity → String
  | .manifest => "Manifest"
  | .test => "Test"
  | .testPart => "TestPart"
  | .rootSection => "RootSection"
  | .question location => "Question(" ++ location.form ++ ")"
  | .group entry => "Group(" ++ toString entry ++ ")"
  | .text entry => "Text(" ++ toString entry ++ ")"
  | .choice location index =>
      "Choice \x7b question: " ++ location.form ++ ", index: " ++ toString index ++ " \x7d"
  | .feedback location slot =>
      "Feedback \x7b question: " ++ location.form ++ ", slot: " ++ slot.form ++ " \x7d"
  | .asset name => "Asset(" ++ Text.quoted name ++ ")"

end QuizPackage
