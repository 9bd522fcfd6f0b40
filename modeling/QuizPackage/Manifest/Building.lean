import QuizPackage.Identifier.Registry
import QuizPackage.Manifest
import QuizPackage.Quiz
import QuizPackage.Test

namespace QuizPackage

def generatorName : String := "qtipack"

def generatorVersion : String := "0.1.0"

/-- A resource for a file, which has no interactions and needs nothing. -/
def Resource.plain (identifier : Identifier) (kind : ResourceKind) (href : String) : Resource :=
  ⟨identifier, kind, href, [], [], none⟩

/-- The identifier of an embedded asset, with its resource if no item before embeds it. -/
def listAsset (assets : AssetMap) (item : Identifier) (name : String) :
    Issuing (Identifier × List Resource) := do
  match assets.lookup name with
  | none => Issuing.stop (.integrity (.missingAsset item name))
  | some asset =>
      match (← get).lookup (.asset name) with
      | some identifier => return (identifier, [])
      | none =>
          let identifier ← issueFor (.asset name) .asset (some name)
          let resource := Resource.plain identifier .asset (assetPath name)
          return (identifier, [{ resource with mediaType := some asset.mediaType }])

/-- The resource of an item, with those of the assets that no item before embeds. -/
def listItem (assets : AssetMap) (item : Item) : Issuing (Resource × List Resource) := do
  let listed ← item.assets.mapM (listAsset assets item.identifier)
  let resource := Resource.plain item.identifier .item (itemPath item.identifier)
  return (
    { resource with
      interactions := item.interactionKinds
      dependencies := listed.map Prod.fst },
    listed.flatMap Prod.snd)

def listTest (test : Test) : Resource :=
  { Resource.plain test.identifier .test (testPath test.identifier) with
    dependencies := test.items.map ItemReference.identifier }

/-- Builds the manifest of a package: the test first, then the items, then the assets in the order
in which items embed them. -/
def buildManifest (quiz : Quiz) (test : Test) (items : List Item) (assets : AssetMap) :
    Issuing Manifest := do
  let identifier ← issueFor .manifest .manifest (some (quiz.title ++ "_manifest"))
  let listed ← items.mapM (listItem assets)
  return {
    identifier := identifier
    metadata := ⟨quiz.title, quiz.description, generatorName, generatorVersion⟩
    resources := listTest test :: listed.map Prod.fst ++ listed.flatMap Prod.snd }

end QuizPackage
