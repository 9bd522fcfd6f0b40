import QuizPackage.Package
import QuizPackage.Package.Plan

namespace QuizPackage

/-- The first path that stands among those before it. `seen` holds these. -/
def repeatedPath? (seen : List String) : List String → Option String
  | [] => none
  | path :: rest => if seen.contains path then some path else repeatedPath? (path :: seen) rest

def Registry.isIssuedFor (registry : Registry) (document name : Identifier) : Bool :=
  registry.contains name || registry.isVariableOf document name

/-- What is wrong with a document: a reference was not issued, or does not occur in the body. -/
def Document.fault? (registry : Registry) (document : Document) : Option IntegrityFault :=
  document.references.findSome? fun name =>
    if !registry.isIssuedFor document.identifier name then
      some (.notIssued document.path name)
    else if !Text.contains document.body name.text then
      some (.notWritten document.path name document.kind)
    else
      none

def ItemReference.resolves (package : Package) (reference : ItemReference) : Bool :=
  reference.href == itemHref reference.identifier &&
    (package.documentsOf .item).any fun document => document.identifier == reference.identifier

def Test.fault? (package : Package) (test : Test) : Option IntegrityFault :=
  (test.items.find? fun reference => !reference.resolves package).map fun reference =>
    .unresolvedItem test.identifier reference.identifier

def Resource.isDocument (package : Package) (kind : DocumentKind) (resource : Resource) : Bool :=
  (package.documentsOf kind).any fun document =>
    document.identifier == resource.identifier && document.path == resource.href

def Resource.resolves (package : Package) (resource : Resource) : Bool :=
  match resource.kind with
  | .test => resource.isDocument package .test
  | .item => resource.isDocument package .item
  | .asset => package.assets.any fun asset => asset.path == resource.href

/-- What is wrong with a resource: it leads nowhere, or it needs what the manifest does not list. -/
def Resource.fault? (package : Package) (manifest : Manifest) (resource : Resource) :
    Option IntegrityFault :=
  if !resource.resolves package then
    some (.unresolvedResource resource.identifier resource.href)
  else
    let unknown := resource.dependencies.find? fun dependency =>
      (manifest.resource? dependency).isNone
    unknown.map (.unknownDependency resource.identifier)

/-- What is wrong with how a manifest lists a path. It lists every path but its own once. -/
def Manifest.listingFault? (manifest : Manifest) (path : String) : Option IntegrityFault :=
  if path == manifestPath then
    none
  else
    match manifest.resources.countP fun resource => resource.href == path with
    | 0 => some (.unlisted path)
    | 1 => none
    | times => some (.listedOften path times)

def Package.fault? (package : Package) (plan : Plan) : Option IntegrityFault :=
  (repeatedPath? [] package.paths).map .repeatedPath <|>
    package.documents.findSome? (Document.fault? plan.registry) <|>
    plan.test.fault? package <|>
    plan.manifest.resources.findSome? (Resource.fault? package plan.manifest) <|>
    (Text.ascending package.paths).findSome? plan.manifest.listingFault?

/-- Refuses a package with a fault. -/
def checkIntegrity (package : Package) (plan : Plan) : Except Problem Unit :=
  match package.fault? plan with
  | some fault => .error (.integrity fault)
  | none => .ok ()

end QuizPackage
