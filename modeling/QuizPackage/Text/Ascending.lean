namespace QuizPackage.Text

variable {α : Type} [LT α] [DecidableLT α]

/-- Adds a value to an ascending list; a value already there is not added again. -/
def insertAscending (value : α) : List α → List α
  | [] => [value]
  | first :: rest =>
      if value < first then
        value :: first :: rest
      else if first < value then
        first :: insertAscending value rest
      else
        first :: rest

/-- The values of a list in ascending order, each once. -/
def ascending (values : List α) : List α :=
  values.foldr insertAscending []

end QuizPackage.Text
