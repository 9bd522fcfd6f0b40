import QuizPackage.Command.Build

namespace QuizPackage.Command

def sampleConfiguration : List String := [
  "# qtipack configuration",
  "",
  "# qti21 or qti30",
  "default_format = \"qti30\"",
  "output_dir = \"./qtipack-out\"",
  "strict_identifiers = false",
  "shuffle_choices = false",
  "# assets_dir = \"$\x7bHOME\x7d/quiz-media\""]

/-- Where the example quiz is written. -/
def exampleDirectory : String := "quizzes"

def exampleFile : String := "quizzes/example.toml"

def exampleQuiz : List String := [
  "[quiz]",
  "title = \"Example Quiz\"",
  "description = \"<p>A short quiz to get started.</p>\"",
  "",
  "[[entries]]",
  "kind = \"single_choice\"",
  "title = \"Arithmetic\"",
  "prompt = \"<p>What is 2 + 3?</p>\"",
  "points = 1",
  "feedback = \x7b correct = \"<p>Correct!</p>\", incorrect = \"<p>Try adding again.</p>\" \x7d",
  "[[entries.choices]]",
  "text = \"6\"",
  "[[entries.choices]]",
  "text = \"1\"",
  "feedback = \"<p>That is 3 - 2.</p>\"",
  "[[entries.choices]]",
  "text = \"5\"",
  "correct = true",
  "",
  "[[entries]]",
  "kind = \"true_false\"",
  "title = \"Sky\"",
  "prompt = \"<p>The sky is blue.</p>\"",
  "points = 2",
  "answer = true",
  "",
  "[[entries]]",
  "kind = \"text\"",
  "title = \"Part two\"",
  "text = \"<p>The following questions are drawn at random.</p>\"",
  "",
  "[[entries]]",
  "kind = \"group\"",
  "title = \"Capitals\"",
  "pick = 1",
  "[[entries.questions]]",
  "kind = \"short_answer\"",
  "title = \"France\"",
  "prompt = \"<p>What is the capital of France?</p>\"",
  "answers = [\"Paris\"]",
  "[[entries.questions]]",
  "kind = \"numerical\"",
  "title = \"Pi\"",
  "prompt = \"<p>Give pi to two decimal places.</p>\"",
  "numeric = [\x7b value = 3.14, tolerance = 0.005 \x7d]",
  "",
  "[[entries]]",
  "kind = \"essay\"",
  "title = \"Reflection\"",
  "prompt = \"<p>What did you learn?</p>\"",
  "points = 5"]

def nextSteps : List String := [
  "",
  "Next steps:",
  "  1. Edit quizzes/example.toml",
  "  2. Run: qtipack validate --quiz quizzes/example.toml",
  "  3. Run: qtipack build --quiz quizzes/example.toml"]

variable {m : Type → Type} [Monad m] [Host m]

/-- Writes lines to a file, unless it is there already. -/
def writeOnce (path : String) (lines : List String) : ExceptT Fault m Unit := do
  if ← Host.present path then
    printLine (path ++ " already exists, skipping.")
  else
    if !(← Host.writeFile path (String.join (lines.map (· ++ "\n"))).toUTF8) then
      throw (.unwrittenFile path)
    printLine ("Created " ++ path)

/-- Writes a configuration and an example quiz to start from. -/
def prepare : ExceptT Fault m Unit := do
  writeOnce configurationFile sampleConfiguration
  if !(← Host.makeDirectory exampleDirectory) then
    throw .fileInTheWay
  writeOnce exampleFile exampleQuiz
  nextSteps.forM printLine

end QuizPackage.Command
