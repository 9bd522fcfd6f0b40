import QuizPackage.Format
import QuizPackage.Item
import QuizPackage.Layout

namespace QuizPackage

/-- A document of a package. -/
structure Document where
  kind : DocumentKind
  identifier : Identifier
  path : String
  body : String
  references : List Identifier

structure AssetFile where
  name : String
  path : String
  mediaType : String
  bytes : ByteArray

structure ItemSummary where
  identifier : Identifier
  title : String
  kind : String
  points : Float
  interactions : List InteractionKind
  path : String

structure Summary where
  format : Format
  title : String
  test : Identifier
  items : List ItemSummary
  groups : Nat
  assets : Nat
  files : Nat

/-- A package. -/
structure Package where
  format : Format
  title : String
  documents : List Document
  assets : List AssetFile
  summary : Summary

/-- The points of all items together. Negative zero is what adding nothing gives. -/
def Summary.totalPoints (summary : Summary) : Float :=
  (summary.items.map ItemSummary.points).foldl (· + ·) (-0.0)

def Package.paths (package : Package) : List String :=
  package.documents.map Document.path ++ package.assets.map AssetFile.path

/-- The files of a package, each with its path. -/
def Package.files (package : Package) : List (String × ByteArray) :=
  (package.documents.map fun document => (document.path, document.body.toUTF8)) ++
    package.assets.map fun asset => (asset.path, asset.bytes)

def Package.file? (package : Package) (path : String) : Option ByteArray :=
  package.files.lookup path

def Package.documentsOf (package : Package) (kind : DocumentKind) : List Document :=
  package.documents.filter fun document => document.kind == kind

def Package.document? (package : Package) (kind : DocumentKind) : Option Document :=
  package.documents.find? fun document => document.kind == kind

end QuizPackage
