import QuizPackage.Command.Prepare
import QuizPackage.Command.Validate

namespace QuizPackage.Command

inductive Ending where
  | done
  | failed (fault : Fault)
  /-- The arguments ask for nothing that can be done. -/
  | misused

def Ending.code : Ending → UInt32
  | .done => 0
  | .failed _ => 1
  | .misused => 2

def versionLine : String :=
  generatorName ++ " " ++ generatorVersion

def usage : String :=
  "Usage: qtipack build --quiz <QUIZ> [OPTIONS]\n" ++
  "       qtipack validate --quiz <QUIZ> [--assets <ASSETS>]\n" ++
  "       qtipack init"

def Ending.complaint : Ending → String
  | .done => ""
  | .failed fault => "Error: " ++ fault.message
  | .misused => usage

variable {m : Type → Type} [Monad m] [Host m]

def Request.perform : Request → ExceptT Fault m Unit
  | .build request => Command.build request
  | .validate quiz assets => Command.validate quiz assets
  | .prepare => Command.prepare
  | .version => printLine versionLine
  | .help => printLine usage

/-- Does what the arguments of the program ask for. -/
def run (arguments : List String) : m Ending := do
  match Request.ofArguments? arguments with
  | none => return .misused
  | some request =>
      match ← request.perform.run with
      | .ok () => return .done
      | .error fault => return .failed fault

end QuizPackage.Command
