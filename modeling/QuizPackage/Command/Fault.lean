import QuizPackage.Format
import QuizPackage.Loading
import QuizPackage.Problem

namespace QuizPackage.Command

/-- Why a command fails. -/
inductive Fault where
  | loading (fault : LoadFault)
  | missingConfiguration (path : String)
  | unreadableConfiguration (path : String)
  | malformedConfiguration (path : String)
  | unknownFormat (spelling : String)
  /-- The expansion of a text is given up. Its references have no end, or none within reach. -/
  | endlessReferences (text : String)
  | unbuilt (quiz : String) (problem : Problem)
  | uncreatedDirectory (path : String)
  | unwrittenFile (path : String)
  | faultyQuizzes (count : Nat)
  | fileInTheWay

def formatVariable : String := "QTIPACK_FORMAT"

def Fault.message : Fault → String
  | .loading fault => fault.message
  | .missingConfiguration path => "config file not found: " ++ path
  | .unreadableConfiguration path => "failed to read config: " ++ path
  | .malformedConfiguration path => "failed to parse config: " ++ path
  | .unknownFormat spelling => "invalid " ++ formatVariable ++ ": " ++ Format.unknown spelling
  | .endlessReferences text => "references without end: " ++ text
  | .unbuilt quiz problem => s!"failed to build package from {quiz}: {problem.message}"
  | .uncreatedDirectory path => "failed to create " ++ path
  | .unwrittenFile path => "failed to write " ++ path
  | .faultyQuizzes count => s!"{count} error(s) found"
  | .fileInTheWay => "File exists (os error 17)"

end QuizPackage.Command
