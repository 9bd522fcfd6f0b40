import QuizPackage.Manifest
import QuizPackage.Page.Item

namespace QuizPackage

open Markup

def schemaName : Format → String
  | .qti21 => "QTIv2.1 Package"
  | .qti30 => "QTI Package"

def schemaVersion : Format → String
  | .qti21 => "1.0.0"
  | .qti30 => "3.0.0"

def ResourceKind.resourceType (kind : ResourceKind) (format : Format) : String :=
  match kind, format with
  | .test, .qti21 => "imsqti_test_xmlv2p1"
  | .test, .qti30 => "imsqti_test_xmlv3p0"
  | .item, .qti21 => "imsqti_item_xmlv2p1"
  | .item, .qti30 => "imsqti_item_xmlv3p0"
  | .asset, _ => "webcontent"

def recordText (name : ElementName) (value : String) : Block :=
  .line (.element name [] [.element .recordString [] [.text value]])

/-- What a package is, as markup. A blank description is left out. -/
def Metadata.block (format : Format) (metadata : Metadata) : Block :=
  let description :=
    if Text.blank metadata.description then []
    else [recordText .recordDescription metadata.description]
  let version := metadata.generator ++ " " ++ metadata.version
  .element .metadata [] [
    .text .schema [] (schemaName format),
    .text .schemaVersion [] (schemaVersion format),
    .element .record [] [
      .element .recordGeneral [] (recordText .recordTitle metadata.title :: description),
      .element .recordLifeCycle [] [recordText .recordVersion version]]]

/-- The interactions of a resource as markup, if there are any. -/
def interactionBlocks (format : Format) (interactions : List InteractionKind) : List Block :=
  let names := interactions.map fun kind =>
    Block.text .interactionType [] (kind.element.spelling.in format)
  match names with
  | [] => []
  | names => [.element .metadata [] [.element .interactionMetadata [] names]]

def mediaTypeBlock (mediaType : String) : Block :=
  .element .metadata [] [
    .element .record [] [
      .line (.element .recordTechnical [] [.element .recordFormat [] [.text mediaType]])]]

def Resource.block (format : Format) (resource : Resource) : Block :=
  let attributes := [
    ⟨.identifier, resource.identifier.text⟩,
    ⟨.kind, resource.kind.resourceType format⟩,
    ⟨.href, resource.href⟩]
  .element .resource attributes (
    interactionBlocks format resource.interactions ++
    resource.mediaType.toList.map mediaTypeBlock ++
    [.empty .file [⟨.href, resource.href⟩]] ++
    resource.dependencies.map fun dependency =>
      .empty .dependency [⟨.identifierRef, dependency.text⟩])

def Manifest.block (format : Format) (manifest : Manifest) : Block :=
  .element .manifest (⟨.identifier, manifest.identifier.text⟩ :: packageAttributes format) [
    manifest.metadata.block format,
    .empty .organizations [],
    .element .resources [] (manifest.resources.map (Resource.block format))]

def Manifest.page (format : Format) (manifest : Manifest) : String :=
  renderDocument format (manifest.block format)

end QuizPackage
