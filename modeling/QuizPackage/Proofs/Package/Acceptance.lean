import Mathlib.Logic.Equiv.Basic
import QuizPackage.Proofs.Host.Memory
import QuizPackage.Proofs.Package.Generation

/-!
# Accepted packages

What integrity accepts, for any package and any plan. It compares the paths of files with those
that the manifest lists, but never with where the links of the test lead.
-/

namespace QuizPackage

variable {package : Package} {planned : Plan} {document : Document} {reference : ItemReference}
  {resource : Resource}

theorem Package.paths_eq (package : Package) : package.files.map Prod.fst = package.paths := by
  simp [Package.files, Package.paths, Function.comp_def]

theorem Registry.isIssuedFor_iff {registry : Registry} {owner name : Identifier} :
    registry.isIssuedFor owner name = true ↔
      name ∈ registry.issued.map Prod.fst ∨ (owner, name) ∈ registry.owned := by
  rw [Registry.isIssuedFor, Bool.or_eq_true, Registry.contains_iff, Registry.isVariableOf_iff]

theorem Package.mem_documentsOf {kind : DocumentKind} :
    document ∈ package.documentsOf kind ↔ document ∈ package.documents ∧ document.kind = kind := by
  simp [Package.documentsOf]

theorem Resource.leadsInto_iff : resource.LeadsInto package ↔
    (resource.kind = .test → ∃ document ∈ package.documents, document.kind = .test ∧
      document.identifier = resource.identifier ∧ document.path = resource.href) ∧
    (resource.kind = .item → ∃ document ∈ package.documents, document.kind = .item ∧
      document.identifier = resource.identifier ∧ document.path = resource.href) ∧
    (resource.kind = .asset → ∃ asset ∈ package.assets, asset.path = resource.href) := by
  unfold Resource.LeadsInto
  cases resource.kind <;> simp [Package.mem_documentsOf, and_assoc]

theorem Manifest.count_hrefs (manifest : Manifest) (path : String) :
    (manifest.resources.map Resource.href).count path =
      manifest.resources.countP fun resource => resource.href == path := by
  rw [List.count, List.countP_map]
  rfl

theorem itemHref_eq (name : Identifier) : itemHref name = "../items/" ++ name.text ++ ".xml" := by
  rw [itemHref, itemPath, ← String.append_assoc, ← String.append_assoc]
  rfl

/-- A package is accepted with a plan exactly if its paths differ, its documents hold what they
refer to and refer to nothing else than what was issued, the items of the test and the resources
of the manifest are there, and the manifest lists every path but its own once. -/
theorem checkIntegrity_accepts_iff (package : Package) (planned : Plan) :
    checkIntegrity package planned = .ok () ↔
      (package.files.map Prod.fst).Nodup ∧
      (∀ document ∈ package.documents, ∀ name ∈ document.references,
        (name ∈ planned.registry.issued.map Prod.fst ∨
          (document.identifier, name) ∈ planned.registry.owned) ∧
        name.text.toList <:+: document.body.toList) ∧
      (∀ reference ∈ planned.test.items,
        (∃ document ∈ package.documents, document.kind = .item ∧
          document.identifier = reference.identifier) ∧
        reference.href = "../items/" ++ reference.identifier.text ++ ".xml") ∧
      (∀ resource ∈ planned.manifest.resources,
        (resource.kind = .test → ∃ document ∈ package.documents, document.kind = .test ∧
          document.identifier = resource.identifier ∧ document.path = resource.href) ∧
        (resource.kind = .item → ∃ document ∈ package.documents, document.kind = .item ∧
          document.identifier = resource.identifier ∧ document.path = resource.href) ∧
        (resource.kind = .asset → ∃ asset ∈ package.assets, asset.path = resource.href) ∧
        ∀ dependency ∈ resource.dependencies,
          ∃ needed ∈ planned.manifest.resources, needed.identifier = dependency) ∧
      (∀ path ∈ package.files.map Prod.fst, path ≠ "imsmanifest.xml" →
        (planned.manifest.resources.map Resource.href).count path = 1) := by
  rw [checkIntegrity_eq_ok_iff, package.paths_eq]
  constructor
  · intro intact
    refine ⟨intact.pathsDistinct, ?_, ?_, ?_, ?_⟩
    · intro document member name refers
      exact ⟨Registry.isIssuedFor_iff.mp (intact.issued document member name refers),
        Text.contains_iff_inside.mp (intact.written document member name refers)⟩
    · intro reference member
      obtain ⟨href, document, held, same⟩ := intact.itemsResolve reference member
      obtain ⟨inside, kind⟩ := Package.mem_documentsOf.mp held
      exact ⟨⟨document, inside, kind, same⟩, href.trans (itemHref_eq _)⟩
    · intro resource member
      obtain ⟨test, item, asset⟩ :=
        Resource.leadsInto_iff.mp (intact.resourcesResolve resource member)
      exact ⟨test, item, asset, intact.dependenciesResolve resource member⟩
    · intro path member other
      rw [Manifest.count_hrefs]
      exact intact.listedOnce path member other
  · rintro ⟨distinct, references, items, resources, listed⟩
    exact {
      pathsDistinct := distinct
      issued := fun document member name refers =>
        Registry.isIssuedFor_iff.mpr (references document member name refers).1
      written := fun document member name refers =>
        Text.contains_iff_inside.mpr (references document member name refers).2
      itemsResolve := by
        intro reference member
        obtain ⟨⟨document, inside, kind, same⟩, href⟩ := items reference member
        exact ⟨href.trans (itemHref_eq _).symm, document,
          Package.mem_documentsOf.mpr ⟨inside, kind⟩, same⟩
      resourcesResolve := by
        intro resource member
        obtain ⟨test, item, asset, _⟩ := resources resource member
        exact Resource.leadsInto_iff.mpr ⟨test, item, asset⟩
      dependenciesResolve := fun resource member => (resources resource member).2.2.2
      listedOnce := by
        intro path member other
        rw [← Manifest.count_hrefs]
        exact listed path member other }

theorem testPath_eq (test : Identifier) :
    testPath test = "tests" ++ "/" ++ (test.text ++ ".xml") := by
  rw [testPath, String.append_assoc]
  rfl

theorem itemPath_eq (item : Identifier) :
    itemPath item = "items" ++ "/" ++ (item.text ++ ".xml") := by
  rw [itemPath, String.append_assoc]
  rfl

theorem parts_testPath {test : Identifier} (whole : '/' ∉ test.text.toList) :
    Path.parts (testPath test) = ["tests", test.text ++ ".xml"] := by
  rw [testPath_eq, Path.parts_append, Path.parts_file whole]
  rfl

theorem parts_itemPath {item : Identifier} (whole : '/' ∉ item.text.toList) :
    Path.parts (itemPath item) = ["items", item.text ++ ".xml"] := by
  rw [itemPath_eq, Path.parts_append, Path.parts_file whole]
  rfl

theorem parts_itemHref {item : Identifier} (whole : '/' ∉ item.text.toList) :
    Path.parts (itemHref item) = ["..", "items", item.text ++ ".xml"] := by
  have cut : itemHref item = "../items" ++ "/" ++ (item.text ++ ".xml") := by
    rw [itemHref, itemPath, String.append_assoc, ← String.append_assoc]
    rfl
  rw [cut, Path.parts_append, Path.parts_file whole]
  rfl

theorem Place.step_file (place : Place) (name : String) :
    place.step (name ++ ".xml") = place ++ [name ++ ".xml"] :=
  place.step_of_isName (Path.isName_file name)

/-- The path to which a relative link leads from the file at a path. -/
def linkedPath (path link : String) : String :=
  let directory : Place := (Path.parts path).dropLast.foldl Place.step []
  "/".intercalate ((Path.parts link).foldl Place.step directory)

/-- From the test, the link to an item leads to where the item lies. -/
theorem linkedPath_itemHref {test item : Identifier} (wholeTest : '/' ∉ test.text.toList)
    (wholeItem : '/' ∉ item.text.toList) :
    linkedPath (testPath test) (itemHref item) = itemPath item := by
  rw [linkedPath, parts_testPath wholeTest, parts_itemHref wholeItem]
  simp only [List.dropLast_cons_cons, List.dropLast_singleton, List.foldl_cons, List.foldl_nil,
    Place.step_file]
  simp [Place.step, itemPath, String.append_assoc]

example : linkedPath "tests/trip.xml" "../items/./map.xml" = "items/map.xml" := by decide

/-- A reference leads from a test to the item that it names. -/
def ItemReference.LeadsToItem (reference : ItemReference) (package : Package) (test : Document) :
    Prop :=
  ∃ document ∈ package.documentsOf .item, document.identifier = reference.identifier ∧
    document.path = linkedPath test.path reference.href

theorem ItemReference.LeadsToItem.path_mem {test : Document}
    (leads : reference.LeadsToItem package test) :
    linkedPath test.path reference.href ∈ package.paths := by
  obtain ⟨document, member, _, path⟩ := leads
  rw [← path]
  exact List.mem_append_left _ (List.mem_map_of_mem (Package.mem_documentsOf.mp member).1)

/-- The manifest lists an item where it lies, as an item with its identifier. -/
theorem Package.Intact.item_listed (intact : package.Intact planned)
    (member : document ∈ package.documentsOf .item) (other : document.path ≠ manifestPath) :
    ∃ resource ∈ planned.manifest.resources, resource.kind = .item ∧
      resource.identifier = document.identifier ∧ resource.href = document.path := by
  obtain ⟨inside, isItem⟩ := Package.mem_documentsOf.mp member
  obtain ⟨documentsDistinct, _, apart⟩ := List.nodup_append.mp intact.pathsDistinct
  have same {listed : Document} (held : listed ∈ package.documents)
      (path : listed.path = document.path) : listed = document :=
    List.inj_on_of_nodup_map documentsDistinct held inside path
  have counted := intact.listedOnce document.path
    (List.mem_append_left _ (List.mem_map_of_mem inside)) other
  obtain ⟨resource, listed, href⟩ := List.countP_pos_iff.mp (counted ▸ Nat.one_pos)
  rw [beq_iff_eq] at href
  obtain ⟨ifTest, ifItem, ifAsset⟩ :=
    Resource.leadsInto_iff.mp (intact.resourcesResolve resource listed)
  -- Another kind of resource would lead to another file at the same path.
  cases kind : resource.kind with
  | test =>
      obtain ⟨found, within, isTest, _, path⟩ := ifTest kind
      rw [same within (path.trans href), isItem] at isTest
      cases isTest
  | item =>
      obtain ⟨found, within, _, identifier, path⟩ := ifItem kind
      rw [same within (path.trans href)] at identifier
      exact ⟨resource, listed, kind, identifier.symm, href⟩
  | asset =>
      obtain ⟨asset, held, path⟩ := ifAsset kind
      exact (apart _ (List.mem_map_of_mem inside) _ (List.mem_map_of_mem held)
        (href.symm.trans path.symm)).elim

theorem Package.Intact.listed_item (intact : package.Intact planned)
    (listed : resource ∈ planned.manifest.resources) (kind : resource.kind = .item) :
    ∃ document ∈ package.documentsOf .item, document.identifier = resource.identifier ∧
      document.path = resource.href := by
  have leads := intact.resourcesResolve resource listed
  rwa [Resource.LeadsInto, kind] at leads

/-- From a test of an intact package, a reference leads to its item exactly if the manifest lists
the item there. -/
theorem Package.Intact.leadsToItem_iff (intact : package.Intact planned) {test : Document}
    (other : linkedPath test.path reference.href ≠ manifestPath) :
    reference.LeadsToItem package test ↔ ∃ resource ∈ planned.manifest.resources,
      resource.kind = .item ∧ resource.identifier = reference.identifier ∧
      resource.href = linkedPath test.path reference.href := by
  constructor
  · rintro ⟨document, member, identifier, path⟩
    rw [← path] at other
    obtain ⟨resource, listed, kind, same, href⟩ := intact.item_listed member other
    exact ⟨resource, listed, kind, same.trans identifier, href.trans path⟩
  · rintro ⟨resource, listed, kind, identifier, href⟩
    obtain ⟨document, member, same, path⟩ := intact.listed_item listed kind
    exact ⟨document, member, same.trans identifier, path.trans href⟩

theorem Registry.Sound.isWhole {registry : Registry} {name : Identifier} (sound : registry.Sound)
    (issued : registry.contains name = true) : '/' ∉ name.text.toList :=
  Markup.not_mem_of_plain (sound.contains_plain issued) (by decide)

/-- In an intact package of a plan whose manifest was left as planned, every reference leads from
the test to its item. -/
theorem Plan.BuiltFrom.references_lead {quiz : Quiz} {assets : AssetMap} {shuffle : Bool}
    (built : planned.BuiltFrom quiz assets shuffle) (intact : package.Intact planned) :
    ∃ test ∈ package.documentsOf .test, test.identifier = planned.test.identifier ∧
      ∀ reference ∈ planned.test.items, reference.LeadsToItem package test := by
  obtain ⟨itemResources, assetResources, split, items, _⟩ := built.resources
  have testListed : listTest planned.test ∈ planned.manifest.resources :=
    split ▸ List.mem_append_left _ List.mem_cons_self
  obtain ⟨test, held, identifier, path⟩ := intact.resourcesResolve _ testListed
  refine ⟨test, held, identifier, fun reference member => ?_⟩
  rw [built.test_items] at member
  obtain ⟨item, inside, rfl⟩ := List.mem_map.mp member
  obtain ⟨resource, listed, dependencies, _, rfl⟩ := exists_of_forall₂_left items inside
  have itemListed := split ▸ List.mem_append_left assetResources (List.mem_cons_of_mem _ listed)
  obtain ⟨document, found, same, place⟩ := intact.listed_item itemListed rfl
  refine ⟨document, found, same, place.trans ?_⟩
  rw [path]
  exact (linkedPath_itemHref (built.sound.isWhole (built.sound.lookup_issued built.test.identifier))
    (built.sound.isWhole (built.item_issued inside))).symm

/-- The references of the test in an accepted package name items that are there, by the links that
belong to them. They lead to these items as far as the manifest lists the items where the links
lead, which it does as it is planned. -/
theorem accepted_references_lead_to_listed_items
    (accepted : checkIntegrity package planned = .ok ()) :
    (∀ reference ∈ planned.test.items,
      reference.href = "../items/" ++ reference.identifier.text ++ ".xml" ∧
      (∃ document ∈ package.documentsOf .item, document.identifier = reference.identifier) ∧
      ∀ test ∈ package.documentsOf .test,
        linkedPath test.path reference.href ≠ "imsmanifest.xml" →
        (reference.LeadsToItem package test ↔ ∃ resource ∈ planned.manifest.resources,
          resource.kind = .item ∧ resource.identifier = reference.identifier ∧
          resource.href = linkedPath test.path reference.href)) ∧
    (∀ options quiz assets, plan options quiz assets = .ok planned →
      ∃ test ∈ package.documentsOf .test, test.identifier = planned.test.identifier ∧
        ∀ reference ∈ planned.test.items, reference.LeadsToItem package test) := by
  have intact := checkIntegrity_eq_ok_iff.mp accepted
  constructor
  · intro reference member
    obtain ⟨href, found⟩ := intact.itemsResolve reference member
    exact ⟨href.trans (itemHref_eq _), found, fun test _ other => intact.leadsToItem_iff other⟩
  · intro options quiz assets made
    exact (plan_ok made).references_lead intact

def trip : Quiz :=
  ⟨"Trip", "", [.text ⟨some "Map", "<p>Turn left.</p>", []⟩]⟩

theorem trip_planned :
    ∃ planned, plan ⟨false, "", false⟩ trip [] = .ok planned ∧
      planned.test.identifier = ⟨"trip"⟩ ∧
      planned.test.items = [⟨⟨"map"⟩, "../items/map.xml"⟩] ∧
      planned.manifest.resources.map Resource.href = ["tests/trip.xml", "items/map.xml"] := by
  have computed : (plan ⟨false, "", false⟩ trip []).toOption.map (fun planned =>
      (planned.test.identifier, planned.test.items,
        planned.manifest.resources.map Resource.href)) =
      some (⟨"trip"⟩, [⟨⟨"map"⟩, "../items/map.xml"⟩], ["tests/trip.xml", "items/map.xml"]) := by
    decide +kernel
  obtain ⟨planned, made, seen⟩ := plan_observed _ computed
  obtain ⟨identifier, rest⟩ := Prod.mk.inj seen
  obtain ⟨items, hrefs⟩ := Prod.mk.inj rest
  exact ⟨planned, made, identifier, items, hrefs⟩

theorem trip_references_lead_to_listed_items :
    ∃ planned, plan ⟨false, "", false⟩ trip [] = .ok planned ∧
      checkIntegrity (Format.qti21.writer.package planned trip []) planned = .ok () ∧
      ∃ test ∈ (Format.qti21.writer.package planned trip []).documentsOf .test,
        ItemReference.LeadsToItem ⟨⟨"map"⟩, "../items/map.xml"⟩
          (Format.qti21.writer.package planned trip []) test := by
  obtain ⟨planned, made, _, items, _⟩ := trip_planned
  have accepted := checkIntegrity_of_intact ((plan_ok made).intact .qti21)
  obtain ⟨_, resolved⟩ := accepted_references_lead_to_listed_items accepted
  obtain ⟨test, member, _, lead⟩ := resolved _ _ _ made
  exact ⟨planned, made, accepted, test, member, lead _ (items ▸ List.mem_singleton_self _)⟩

/-- A package with its files at other paths. -/
def Package.relocate (move : String → String) (package : Package) : Package :=
  { package with
    documents := package.documents.map fun document =>
      { document with path := move document.path }
    assets := package.assets.map fun asset => { asset with path := move asset.path } }

/-- A plan with its manifest rewritten for files at other paths. -/
def Plan.relocate (move : String → String) (planned : Plan) : Plan :=
  { planned with
    manifest := { planned.manifest with
      resources := planned.manifest.resources.map fun resource =>
        { resource with href := move resource.href } } }

theorem Package.paths_relocate (move : String → String) (package : Package) :
    (package.relocate move).paths = package.paths.map move := by
  simp [Package.paths, Package.relocate, Function.comp_def]

theorem Package.mem_documentsOf_relocate (move : String → String) {kind : DocumentKind}
    (member : document ∈ package.documentsOf kind) :
    { document with path := move document.path } ∈ (package.relocate move).documentsOf kind := by
  obtain ⟨inside, same⟩ := Package.mem_documentsOf.mp member
  exact Package.mem_documentsOf.mpr ⟨List.mem_map_of_mem inside, same⟩

theorem Resource.LeadsInto.relocate (move : String → String) (leads : resource.LeadsInto package) :
    Resource.LeadsInto (package.relocate move) { resource with href := move resource.href } := by
  unfold Resource.LeadsInto at leads ⊢
  cases kind : resource.kind with
  | test =>
      rw [kind] at leads
      obtain ⟨document, member, identifier, path⟩ := leads
      exact ⟨_, Package.mem_documentsOf_relocate move member, identifier, congrArg move path⟩
  | item =>
      rw [kind] at leads
      obtain ⟨document, member, identifier, path⟩ := leads
      exact ⟨_, Package.mem_documentsOf_relocate move member, identifier, congrArg move path⟩
  | asset =>
      rw [kind] at leads
      obtain ⟨asset, member, path⟩ := leads
      exact ⟨_, List.mem_map_of_mem member, congrArg move path⟩

/-- A package stays intact when its files move and its manifest is rewritten for it, though the
links of its test stay as they are. -/
theorem Package.Intact.relocate {move : String → String} (intact : package.Intact planned)
    (injective : Function.Injective move) (kept : move manifestPath = manifestPath) :
    (package.relocate move).Intact (planned.relocate move) where
  pathsDistinct := by
    rw [Package.paths_relocate]
    exact intact.pathsDistinct.map injective
  issued := by
    intro document member name refers
    obtain ⟨original, inside, rfl⟩ := List.mem_map.mp member
    exact intact.issued original inside name refers
  written := by
    intro document member name refers
    obtain ⟨original, inside, rfl⟩ := List.mem_map.mp member
    exact intact.written original inside name refers
  itemsResolve := by
    intro reference member
    obtain ⟨href, document, held, same⟩ := intact.itemsResolve reference member
    exact ⟨href, _, Package.mem_documentsOf_relocate move held, same⟩
  resourcesResolve := by
    intro resource member
    obtain ⟨original, listed, rfl⟩ := List.mem_map.mp member
    exact (intact.resourcesResolve original listed).relocate move
  dependenciesResolve := by
    intro resource member dependency needs
    obtain ⟨original, listed, rfl⟩ := List.mem_map.mp member
    obtain ⟨needed, found, same⟩ := intact.dependenciesResolve original listed dependency needs
    exact ⟨_, List.mem_map_of_mem found, same⟩
  listedOnce := by
    intro path member other
    rw [Package.paths_relocate] at member
    obtain ⟨original, inside, rfl⟩ := List.mem_map.mp member
    have once := intact.listedOnce original inside fun equal => other (equal ▸ kept)
    rw [← once]
    change (planned.manifest.resources.map _).countP _ = _
    rw [List.countP_map]
    refine List.countP_congr fun resource _ => ?_
    simp [injective.eq_iff]

def moveMap : Equiv.Perm String :=
  Equiv.swap "items/map.xml" "items/moved.xml"

/-- The item of a trip moves and its manifest with it, but not the reference of its test. -/
theorem moved_map_is_accepted_out_of_reach :
    ∃ planned package, plan ⟨false, "", false⟩ trip [] = .ok planned ∧
      package = (Format.qti21.writer.package planned trip []).relocate moveMap ∧
      checkIntegrity package (planned.relocate moveMap) = .ok () ∧
      package.paths = ["imsmanifest.xml", "tests/trip.xml", "items/moved.xml"] ∧
      ∃ test ∈ package.documentsOf .test, ∃ reference ∈ (planned.relocate moveMap).test.items,
        linkedPath test.path reference.href = "items/map.xml" ∧
        ¬reference.LeadsToItem package test := by
  obtain ⟨planned, made, identifier, items, hrefs⟩ := trip_planned
  have built := plan_ok made
  have accepted := checkIntegrity_of_intact
    ((built.intact .qti21).relocate moveMap.injective (by decide))
  have paths : ((Format.qti21.writer.package planned trip []).relocate moveMap).paths =
      ["imsmanifest.xml", "tests/trip.xml", "items/moved.xml"] := by
    rw [Package.paths_relocate, (built.paths _).1, hrefs]
    decide
  have member := Package.mem_documentsOf_relocate moveMap
    (Format.qti21.writer.testDocument_mem planned trip [])
  generalize same : (Format.qti21.writer.package planned trip []).relocate moveMap = package at *
  have linked : linkedPath (moveMap (testPath planned.test.identifier)) "../items/map.xml" =
      "items/map.xml" := by
    have fixed : moveMap (testPath ⟨"trip"⟩) = testPath ⟨"trip"⟩ := by decide
    have leads : linkedPath (testPath ⟨"trip"⟩) (itemHref ⟨"map"⟩) = itemPath ⟨"map"⟩ :=
      linkedPath_itemHref (by decide) (by decide)
    rw [identifier, fixed]
    exact leads
  refine ⟨planned, package, made, same.symm, accepted, paths, _, member,
    ⟨⟨"map"⟩, "../items/map.xml"⟩, items ▸ List.mem_singleton_self _, linked, fun leads => ?_⟩
  have inside := linked ▸ leads.path_mem
  rw [paths] at inside
  revert inside
  decide

end QuizPackage
