import QuizPackage.Package.Integrity
import QuizPackage.Page.Manifest
import QuizPackage.Page.Test

namespace QuizPackage

/-- A way to write documents. -/
structure Writer where
  format : Format
  item : Item → String
  test : Test → String
  manifest : Manifest → String

def Format.writer (format : Format) : Writer :=
  ⟨format, Item.page format, Test.page format, Manifest.page format⟩

def Writer.manifestDocument (writer : Writer) (manifest : Manifest) : Document :=
  ⟨.manifest, manifest.identifier, manifestPath, writer.manifest manifest, manifest.references⟩

def Writer.testDocument (writer : Writer) (test : Test) : Document :=
  ⟨.test, test.identifier, testPath test.identifier, writer.test test, test.references⟩

def Writer.itemDocument (writer : Writer) (item : Item) : Document :=
  ⟨.item, item.identifier, itemPath item.identifier, writer.item item, item.references⟩

/-- The asset of a resource, if it is at hand. -/
def Resource.assetFile? (assets : AssetMap) (resource : Resource) : Option AssetFile := do
  let name ← assetName? resource.href
  let asset ← assets.lookup name
  return ⟨name, resource.href, asset.mediaType, asset.bytes⟩

def Item.summary (item : Item) : ItemSummary :=
  { identifier := item.identifier
    title := item.title
    kind := item.kind
    points := item.points
    interactions := item.interactionKinds
    path := itemPath item.identifier }

def Writer.package (writer : Writer) (plan : Plan) (quiz : Quiz) (assets : AssetMap) : Package :=
  let documents :=
    writer.manifestDocument plan.manifest :: writer.testDocument plan.test ::
      plan.items.map writer.itemDocument
  let assetFiles := (plan.manifest.resourcesOf .asset).filterMap (Resource.assetFile? assets)
  let summary := {
    format := writer.format
    title := quiz.title
    test := plan.test.identifier
    items := plan.items.map Item.summary
    groups := plan.test.groups.length
    assets := assetFiles.length
    files := documents.length + assetFiles.length }
  ⟨writer.format, quiz.title, documents, assetFiles, summary⟩

/-- Plans a package, writes it and checks it. -/
def generate (writer : Writer) (options : Options) (quiz : Quiz) (assets : AssetMap) :
    Except Problem Package := do
  let planned ← plan options quiz assets
  let package := writer.package planned quiz assets
  checkIntegrity package planned
  return package

end QuizPackage
