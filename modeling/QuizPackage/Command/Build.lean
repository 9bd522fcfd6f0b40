import QuizPackage.Command.Arguments
import QuizPackage.Command.Configuration
import QuizPackage.Data.Document
import QuizPackage.Data.Json
import QuizPackage.Package.Generation
import QuizPackage.Text.Table

namespace QuizPackage.Command

def itemTable (summary : Summary) : Text.Table :=
  { header := ["Item", "Title", "Kind", "Points", "Path"]
    rows := summary.items.map fun item =>
      [item.identifier.text, item.title, item.kind, Number.onePlace item.points, item.path] }

def assetTable (assets : List AssetFile) : Text.Table :=
  { header := ["Asset", "Media type", "Bytes", "Path"]
    rows := assets.map fun asset =>
      [asset.name, asset.mediaType, toString asset.bytes.size, asset.path] }

def totals (summary : Summary) : String :=
  s!"{summary.items.length} item(s), {summary.groups} group(s), {summary.assets} asset(s), " ++
    s!"{summary.files} file(s), {Number.onePlace summary.totalPoints} point(s)"

def reportLines (package : Package) (output : String) : List String :=
  let summary := package.summary
  let assets := if package.assets.isEmpty then [] else [(assetTable package.assets).render]
  [s!"{summary.title} ({summary.format.name})", (itemTable summary).render, totals summary] ++
    assets ++ ["Package written to: " ++ output]

/-- Where a package is written unless the arguments tell: below the directory of the configuration,
under the name of the quiz file. -/
def standardOutput (configuration : Configuration) (quiz : String) : String :=
  Path.join configuration.outputDirectory ((Path.fileStem? quiz).getD "package")

variable {m : Type → Type} [Monad m] [Host m]

def printLine (line : String) : ExceptT Fault m Unit :=
  Host.print (line ++ "\n")

def writeInto (directory : String) (file : String × ByteArray) : ExceptT Fault m Unit := do
  let target := Path.join directory file.1
  let parent := Path.parent target
  if !(← Host.makeDirectory parent) then
    throw (.uncreatedDirectory parent)
  if !(← Host.writeFile target file.2) then
    throw (.unwrittenFile target)

/-- The assets that the arguments or else the configuration tell to load. -/
def loadChosenAssets (directory : Option String) : ExceptT Fault m AssetMap :=
  match directory with
  | none => pure []
  | some directory => ExceptT.adapt .loading (loadAssetDirectory directory)

def chosenSuffix (suffix : Option String) : ExceptT Fault m String :=
  match suffix with
  | none => Host.freshToken
  | some suffix => pure suffix

/-- Builds the package of a quiz and writes it to a directory. -/
def build (request : BuildRequest) : ExceptT Fault m Unit := do
  let configuration ← loadConfiguration request.configuration
  let quiz ← ExceptT.adapt .loading (loadQuiz request.quiz)
  let assets ← loadChosenAssets (request.assets <|> configuration.assetsDirectory)
  let format := request.format.getD configuration.format
  let options : Options :=
    { strict := request.strict || configuration.strict
      suffix := ← chosenSuffix request.suffix
      shuffle := request.shuffle || configuration.shuffle }
  match generate format.writer options quiz assets with
  | .error problem => throw (.unbuilt request.quiz problem)
  | .ok package =>
      let output := request.output.getD (standardOutput configuration request.quiz)
      package.files.forM (writeInto output)
      if request.json then
        printLine (package.summary.data.json 0)
      else
        (reportLines package output).forM printLine

end QuizPackage.Command
