import QuizPackage.Command.Build
import QuizPackage.Quiz.Warning

namespace QuizPackage.Command

inductive QuizFault where
  | unplanned (problem : Problem)
  | missedPoints (title : String) (score points : Float)

def QuizFault.message : QuizFault → String
  | .unplanned problem => problem.message
  | .missedPoints title score points =>
      s!"answer key of {title} scores {Number.display score} of {Number.display points} point(s)"

def stubAssets (quiz : Quiz) : AssetMap :=
  quiz.assets.map fun name => (name, ⟨.empty, mediaTypeOf name⟩)

def tolerance : Float := 2.220446049250313e-16

/-- What is wrong with an item whose answer key does not earn its points. -/
def keyFault? (item : Item) : Option QuizFault :=
  match item.answerKey with
  | none => none
  | some key =>
      let score := (item.synthesis.score key).score
      if tolerance < (score - item.points).abs then
        some (.missedPoints item.title score item.points)
      else
        none

def trialOptions : Options := ⟨false, "", false⟩

/-- What is wrong with a quiz. Without assets at hand, those it lists are taken to be there. -/
def quizFaults (quiz : Quiz) (assets : Option AssetMap) : List QuizFault :=
  match plan trialOptions quiz (assets.getD (stubAssets quiz)) with
  | .error problem => [.unplanned problem]
  | .ok planned => planned.items.filterMap keyFault?

def warningLine (warning : Warning) : String :=
  let place :=
    match warning.location with
    | some location => "[" ++ location.describe ++ "]"
    | none => ""
  "  " ++ place ++ " WARNING: " ++ warning.concern.message

structure Tally where
  warnings : Nat
  faults : Nat

variable {m : Type → Type} [Monad m] [Host m]

def reportQuiz (assets : Option AssetMap) (quiz : Quiz) : ExceptT Fault m Tally := do
  let faults := quizFaults quiz assets
  printLine s!"Quiz: {quiz.title} ({quiz.itemCount} items)"
  quiz.warnings.forM fun warning => printLine (warningLine warning)
  faults.forM fun fault => printLine ("   ERROR: " ++ fault.message)
  return ⟨quiz.warnings.length, faults.length⟩

def loadQuizzesAt (path : String) : ExceptT Fault m (List Quiz) := do
  if ← Host.directory path then
    ExceptT.adapt .loading (loadQuizDirectory path)
  else
    return [← ExceptT.adapt .loading (loadQuiz path)]

/-- Plans the packages of quizzes without writing them, and scores the answer key of every item. -/
def validate (path : String) (directory : Option String) : ExceptT Fault m Unit := do
  let quizzes ← loadQuizzesAt path
  let assets ← directory.mapM fun path => ExceptT.adapt .loading (loadAssetDirectory path)
  let tallies ← quizzes.mapM (reportQuiz assets)
  let warnings := (tallies.map Tally.warnings).foldr (· + ·) 0
  let faults := (tallies.map Tally.faults).foldr (· + ·) 0
  if faults != 0 then
    throw (.faultyQuizzes faults)
  if warnings == 0 then
    printLine "All quizzes valid."
  else
    printLine s!"\n{warnings} warning(s) found."

end QuizPackage.Command
