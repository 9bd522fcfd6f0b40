import QuizPackage.Host
import QuizPackage.MediaType
import QuizPackage.Source.Reading
import QuizPackage.Text.Ascending

namespace QuizPackage

/-- Why nothing can be loaded. -/
inductive LoadFault where
  | source (fault : Source.ReadFault)
  | notDirectory (path : String)
  | unreadableDirectory (path : String)
  | unreadableAssets (path : String)
  | unreadableAsset (path : String)
deriving DecidableEq, Repr

/-- Why nothing can be loaded, in words. -/
def LoadFault.message : LoadFault → String
  | .source fault => fault.message
  | .notDirectory path => "not a directory: " ++ path
  | .unreadableDirectory path => "failed to read directory: " ++ path
  | .unreadableAssets path => "failed to read asset directory: " ++ path
  | .unreadableAsset path => "failed to read asset: " ++ path

/-- How deep directories may lie: a path has at most 4096 bytes, and each level takes two. -/
def greatestDepth : Nat := 2048

variable {m : Type → Type} [Monad m] [Host m]

def loadQuiz (path : String) : ExceptT LoadFault m Quiz := do
  match (← Host.content? path).bind String.fromUTF8? with
  | none => throw (.source (.unreadableFile path))
  | some source =>
      match Source.readQuiz path source with
      | .error fault => throw (.source fault)
      | .ok quiz => return quiz

def isQuizFile (path : String) : Bool :=
  Path.extension? path == some "toml" || Path.extension? path == some "json"

/-- Loads the quiz of a file; files that hold none are passed over. -/
def loadQuizFile (path : String) : ExceptT LoadFault m (List Quiz) := do
  if isQuizFile path then
    try return [← loadQuiz path] catch _ => return []
  else
    return []

def loadQuizzes : (depth : Nat) → String → ExceptT LoadFault m (List Quiz)
  | 0, path => throw (.unreadableDirectory path)
  | depth + 1, path => do
      if !(← Host.directory path) then
        throw (.notDirectory path)
      match ← Host.names? path with
      | none => throw (.unreadableDirectory path)
      | some names =>
          let quizzes ← (Text.ascending names).mapM fun name => do
            let child := Path.join path name
            if ← Host.directory child then
              loadQuizzes depth child
            else
              loadQuizFile child
          return quizzes.flatten

def loadQuizDirectory (path : String) : ExceptT LoadFault m (List Quiz) :=
  loadQuizzes greatestDepth path

/-- Loads all files in a directory and below it. Their names start with `leading`. -/
def loadAssets (leading : String) : (depth : Nat) → String → ExceptT LoadFault m AssetMap
  | 0, path => throw (.unreadableAssets path)
  | depth + 1, path => do
      match ← Host.names? path with
      | none => throw (.unreadableAssets path)
      | some names =>
          let assets ← names.mapM fun name => do
            let child := Path.join path name
            if ← Host.directory child then
              loadAssets (leading ++ name ++ "/") depth child
            else
              match ← Host.content? child with
              | none => throw (.unreadableAsset child)
              | some bytes => return [(leading ++ name, ⟨bytes, mediaTypeOf child⟩)]
          return assets.flatten

/-- Loads all files of a directory as assets. Their names are their paths from there. -/
def loadAssetDirectory (path : String) : ExceptT LoadFault m AssetMap :=
  loadAssets "" greatestDepth path

end QuizPackage
