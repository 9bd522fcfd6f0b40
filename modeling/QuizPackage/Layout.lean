import QuizPackage.Identifier
import QuizPackage.Path

namespace QuizPackage

inductive DocumentKind where
  | item
  | test
  | manifest
deriving DecidableEq, Repr

def DocumentKind.name : DocumentKind → String
  | .item => "assessment item"
  | .test => "assessment test"
  | .manifest => "manifest"

/-- Where the manifest lies. -/
def manifestPath : String := "imsmanifest.xml"

def assetsDirectory : String := "assets"

/-- Where an item lies. -/
def itemPath (identifier : Identifier) : String :=
  "items/" ++ identifier.text ++ ".xml"

/-- Where a test lies. -/
def testPath (identifier : Identifier) : String :=
  "tests/" ++ identifier.text ++ ".xml"

/-- Where an asset lies. -/
def assetPath (name : String) : String :=
  "assets/" ++ name

/-- The name of the asset that lies at a path, if it lies in the directory of the assets. -/
def assetName? (path : String) : Option String :=
  let directory := (assetPath "").toList
  if directory.isPrefixOf path.toList then
    some (String.ofList (path.toList.drop directory.length))
  else
    none

def itemHref (identifier : Identifier) : String :=
  "../" ++ itemPath identifier

def assetHref (name : String) : String :=
  "../" ++ assetPath name

/-- Whether a name stays inside the directory of the assets: a relative path without backslashes,
whose parts are neither empty nor dots that lead elsewhere. -/
def isAssetName (name : String) : Bool :=
  name.toList.all (· != '\\') &&
    (Path.parts name).all fun part => part != "" && part != "." && part != ".."

end QuizPackage
