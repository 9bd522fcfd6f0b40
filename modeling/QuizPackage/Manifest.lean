import QuizPackage.Item
import QuizPackage.Layout

namespace QuizPackage

inductive ResourceKind where
  | test
  | item
  | asset
deriving DecidableEq, Repr

def ResourceKind.name : ResourceKind → String
  | .test => "test"
  | .item => "item"
  | .asset => "asset"

structure Resource where
  identifier : Identifier
  kind : ResourceKind
  /-- Where the file lies. -/
  href : String
  interactions : List InteractionKind
  dependencies : List Identifier
  mediaType : Option String
deriving DecidableEq, Repr

structure Metadata where
  title : String
  description : String
  generator : String
  version : String
deriving DecidableEq, Repr

/-- The manifest of a package. -/
structure Manifest where
  identifier : Identifier
  metadata : Metadata
  resources : List Resource
deriving DecidableEq, Repr

def Manifest.resource? (manifest : Manifest) (identifier : Identifier) : Option Resource :=
  manifest.resources.find? fun resource => resource.identifier == identifier

def Manifest.resourcesOf (manifest : Manifest) (kind : ResourceKind) : List Resource :=
  manifest.resources.filter fun resource => resource.kind == kind

def Manifest.references (manifest : Manifest) : List Identifier :=
  Text.ascending (manifest.identifier ::
    manifest.resources.flatMap fun resource => resource.identifier :: resource.dependencies)

end QuizPackage
