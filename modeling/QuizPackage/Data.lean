import QuizPackage.Number.Writing

namespace QuizPackage

/-- Documents as nested lists and records, without regard to how they are stored. -/
inductive Data where
  | absent
  | truth (holds : Bool)
  | count (number : Nat)
  | measure (number : Float)
  | text (value : String)
  | list (values : List Data)
  | record (fields : List (String × Data))

def Data.optional {α : Type} (describe : α → Data) : Option α → Data
  | some value => describe value
  | none => .absent

def Data.texts (values : List String) : Data :=
  .list (values.map .text)

end QuizPackage
