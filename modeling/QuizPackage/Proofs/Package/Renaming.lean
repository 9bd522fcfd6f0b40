import QuizPackage.Package.Plan
import QuizPackage.Proofs.Identifier.Renaming
import QuizPackage.Proofs.Item.Renaming

namespace QuizPackage

/-- A reference to the renamed item, which lies elsewhere. -/
def ItemReference.rename (naming : Identifier → Identifier) (reference : ItemReference) :
    ItemReference :=
  .to (naming reference.identifier)

def GroupSection.rename (naming : Identifier → Identifier) (pool : GroupSection) : GroupSection :=
  { pool with
    identifier := naming pool.identifier
    items := pool.items.map (ItemReference.rename naming) }

def SectionPart.rename (naming : Identifier → Identifier) : SectionPart → SectionPart
  | .item reference => .item (reference.rename naming)
  | .group pool => .group (pool.rename naming)

def Test.rename (naming : Identifier → Identifier) (test : Test) : Test :=
  { test with
    identifier := naming test.identifier
    score := naming test.score
    part := naming test.part
    rootSection := naming test.rootSection
    parts := test.parts.map (SectionPart.rename naming) }

/-- Where a renamed resource lies: an asset stays where it is. -/
def Resource.renamedHref (naming : Identifier → Identifier) (resource : Resource) : String :=
  match resource.kind with
  | .test => testPath (naming resource.identifier)
  | .item => itemPath (naming resource.identifier)
  | .asset => resource.href

def Resource.rename (naming : Identifier → Identifier) (resource : Resource) : Resource :=
  { resource with
    identifier := naming resource.identifier
    href := resource.renamedHref naming
    dependencies := resource.dependencies.map naming }

def Manifest.rename (naming : Identifier → Identifier) (manifest : Manifest) : Manifest :=
  { manifest with
    identifier := naming manifest.identifier
    resources := manifest.resources.map (Resource.rename naming) }

def Plan.rename (naming : Identifier → Identifier) (suffix : String) (planned : Plan) : Plan :=
  { registry := planned.registry.rename naming suffix
    items := planned.items.map (Item.rename naming)
    test := planned.test.rename naming
    manifest := planned.manifest.rename naming }

variable {naming first second : Identifier → Identifier}

theorem SectionPart.items_rename (part : SectionPart) :
    (part.rename naming).items = part.items.map (ItemReference.rename naming) := by
  cases part <;> rfl

theorem Test.items_rename (test : Test) :
    (test.rename naming).items = test.items.map (ItemReference.rename naming) := by
  simp [Test.items, Test.rename, List.flatMap_map, List.map_flatMap, SectionPart.items_rename]

theorem listTest_rename (test : Test) :
    listTest (test.rename naming) = (listTest test).rename naming := by
  simp only [listTest, Resource.rename, Resource.renamedHref, Resource.plain, Test.items_rename,
    List.map_map]
  rfl

theorem Test.groups_rename (test : Test) :
    (test.rename naming).groups = test.groups.map (GroupSection.rename naming) := by
  have groups (part : SectionPart) :
      (part.rename naming).group? = part.group?.map (GroupSection.rename naming) := by
    cases part <;> rfl
  simp [Test.groups, Test.rename, List.filterMap_map, List.map_filterMap, groups]

theorem Test.length_references_rename (injective : Function.Injective naming) (test : Test) :
    (test.rename naming).references.length = test.references.length := by
  refine Eq.trans ?_ (Text.length_ascending_map injective _)
  rw [Test.references, Test.groups_rename, Test.items_rename]
  simp [Test.rename, GroupSection.rename, ItemReference.rename, ItemReference.to,
    Function.comp_def]

theorem Manifest.length_references_rename (injective : Function.Injective naming)
    (manifest : Manifest) :
    (manifest.rename naming).references.length = manifest.references.length := by
  refine Eq.trans ?_ (Text.length_ascending_map injective _)
  rw [Manifest.references]
  simp [Manifest.rename, Resource.rename, List.flatMap_map, List.map_flatMap]

theorem Test.rename_rename (test : Test) :
    (test.rename first).rename second = test.rename (second ∘ first) := by
  have parts (part : SectionPart) :
      (part.rename first).rename second = part.rename (second ∘ first) := by
    cases part with
    | item reference => rfl
    | group pool =>
        simp [SectionPart.rename, GroupSection.rename, ItemReference.rename, ItemReference.to,
          Function.comp_def]
  simp [Test.rename, parts, Function.comp_def]

theorem Manifest.rename_rename (manifest : Manifest) :
    (manifest.rename first).rename second = manifest.rename (second ∘ first) := by
  have resources (resource : Resource) :
      (resource.rename first).rename second = resource.rename (second ∘ first) := by
    cases kind : resource.kind <;> simp [Resource.rename, Resource.renamedHref, kind]
  simp [Manifest.rename, resources, Function.comp_def]

theorem Plan.rename_rename (planned : Plan) (suffix other : String) :
    (planned.rename first other).rename second suffix =
      planned.rename (second ∘ first) suffix := by
  simp [Plan.rename, Registry.rename_rename, Item.rename_rename, Test.rename_rename,
    Manifest.rename_rename, Function.comp_def]

end QuizPackage
