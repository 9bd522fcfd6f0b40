import QuizPackage.Package.Generation
import QuizPackage.Proofs.Package.Integrity
import QuizPackage.Proofs.Package.References
import QuizPackage.Proofs.Page.References

namespace QuizPackage

variable {quiz : Quiz} {assets : AssetMap} {planned : Plan} {shuffle : Bool} {registry : Registry}
  {format : Format} {resources : List Resource} {names : List String}

theorem itemPath_injective : Function.Injective itemPath := by
  intro first second equal
  cases first
  cases second
  simpa [itemPath, String.append_assoc] using equal

theorem assetName?_assetPath (name : String) : assetName? (assetPath name) = some name := by
  simp [assetName?, assetPath, String.toList_append]

/-- The two characters that tell apart where the manifest, tests, items and assets lie. -/
def pathStart (path : String) : List Char :=
  path.toList.take 2

theorem pathStart_testPath (identifier : Identifier) :
    pathStart (testPath identifier) = ['t', 'e'] := by
  simp [pathStart, testPath, String.toList_append]

theorem pathStart_itemPath (identifier : Identifier) :
    pathStart (itemPath identifier) = ['i', 't'] := by
  simp [pathStart, itemPath, String.toList_append]

theorem pathStart_assetPath (name : String) : pathStart (assetPath name) = ['a', 's'] := by
  simp [pathStart, assetPath, String.toList_append]

theorem pathStart_manifestPath : pathStart manifestPath = ['i', 'm'] := by
  decide

/-- The paths of a package are distinct where its items and its assets are. -/
theorem paths_nodup (test : Identifier) {items : List Identifier} (itemsDistinct : items.Nodup)
    (namesDistinct : names.Nodup) :
    (manifestPath :: testPath test :: items.map itemPath ++ names.map assetPath).Nodup := by
  have starts {first second : String} (apart : pathStart first ≠ pathStart second) :
      first ≠ second := fun equal => apart (congrArg pathStart equal)
  rw [List.cons_append, List.cons_append, List.nodup_cons, List.nodup_cons, List.nodup_append]
  refine ⟨?_, ?_, itemsDistinct.map itemPath_injective, namesDistinct.map assetPath_injective, ?_⟩
  · simp only [List.mem_cons, List.mem_append, List.mem_map, not_or, not_exists, not_and]
    refine ⟨starts ?_, fun item _ equal => starts ?_ equal, fun name _ equal => starts ?_ equal⟩
    · rw [pathStart_manifestPath, pathStart_testPath]
      decide
    · rw [pathStart_itemPath, pathStart_manifestPath]
      decide
    · rw [pathStart_assetPath, pathStart_manifestPath]
      decide
  · simp only [List.mem_append, List.mem_map, not_or, not_exists, not_and]
    refine ⟨fun item _ equal => starts ?_ equal, fun name _ equal => starts ?_ equal⟩
    · rw [pathStart_itemPath, pathStart_testPath]
      decide
    · rw [pathStart_assetPath, pathStart_testPath]
      decide
  · intro first inItems second inAssets
    obtain ⟨item, _, rfl⟩ := List.mem_map.mp inItems
    obtain ⟨name, _, rfl⟩ := List.mem_map.mp inAssets
    refine starts ?_
    rw [pathStart_itemPath, pathStart_assetPath]
    decide

theorem Resource.IsAsset.assetFile? {name : String} {resource : Resource}
    (single : resource.IsAsset assets registry name) :
    ∃ file, resource.assetFile? assets = some file ∧ file.path = assetPath name ∧
      resource.href = assetPath name := by
  obtain ⟨identifier, asset, _, atHand, rfl⟩ := single
  simp [Resource.assetFile?, assetName?_assetPath, atHand]

/-- The files of assets lie where their resources say. -/
theorem assetFiles_paths
    (listed : List.Forall₂ (Resource.IsAsset assets registry) names resources) :
    (resources.filterMap (Resource.assetFile? assets)).map AssetFile.path =
      names.map assetPath := by
  induction listed with
  | nil => rfl
  | cons single _ ih =>
      obtain ⟨file, found, path, _⟩ := single.assetFile?
      rw [List.filterMap_cons_some found, List.map_cons, List.map_cons, ih, path]

theorem itemResources_hrefs {items : List Item}
    (listed : List.Forall₂ (Item.ListedAs registry) items resources) :
    resources.map Resource.href = (items.map Item.identifier).map itemPath := by
  induction listed with
  | nil => rfl
  | cons single _ ih =>
      obtain ⟨dependencies, _, rfl⟩ := single
      rw [List.map_cons, List.map_cons, List.map_cons, ih]

/-- The manifest, the test, the items and the assets of a package each have their own path. -/
theorem Plan.BuiltFrom.paths_eq (built : planned.BuiltFrom quiz assets shuffle) (writer : Writer) :
    (writer.package planned quiz assets).paths =
      manifestPath :: testPath planned.test.identifier ::
        (planned.items.map Item.identifier).map itemPath ++
        (planned.items.flatMap Item.assets).eraseDups.map assetPath := by
  obtain ⟨itemResources, assetResources, split, items, embedded⟩ := built.resources
  have documents : (planned.items.map writer.itemDocument).map Document.path =
      (planned.items.map Item.identifier).map itemPath := by
    rw [List.map_map, List.map_map]
    rfl
  simp only [Package.paths, Writer.package, List.map_cons, documents,
    (resourcesOf_split split items embedded).2, assetFiles_paths embedded]
  rfl

/-- The paths of a package are that of its manifest and those that its manifest lists. -/
theorem Plan.BuiltFrom.paths (built : planned.BuiltFrom quiz assets shuffle) (writer : Writer) :
    (writer.package planned quiz assets).paths =
      manifestPath :: planned.manifest.resources.map Resource.href ∧
    (writer.package planned quiz assets).paths.Nodup := by
  have paths := built.paths_eq writer
  obtain ⟨itemResources, assetResources, split, items, embedded⟩ := built.resources
  refine ⟨?_, paths ▸ paths_nodup _ built.items_nodup (nodup_eraseDups _)⟩
  rw [paths, split, List.map_append, List.map_cons, itemResources_hrefs items,
    assetResources_hrefs embedded]
  rfl

theorem Writer.documentsOf_item (writer : Writer) (planned : Plan) (quiz : Quiz)
    (assets : AssetMap) :
    (writer.package planned quiz assets).documentsOf .item =
      planned.items.map writer.itemDocument := by
  have all : (planned.items.map writer.itemDocument).filter (fun document =>
      document.kind == .item) = planned.items.map writer.itemDocument := by
    rw [List.filter_eq_self]
    intro document member
    obtain ⟨item, _, rfl⟩ := List.mem_map.mp member
    rfl
  rw [Package.documentsOf, Writer.package, List.filter_cons_of_neg (by simp [manifestDocument]),
    List.filter_cons_of_neg (by simp [testDocument]), all]

theorem Writer.testDocument_mem (writer : Writer) (planned : Plan) (quiz : Quiz)
    (assets : AssetMap) :
    writer.testDocument planned.test ∈
      (writer.package planned quiz assets).documentsOf .test :=
  List.mem_filter.mpr ⟨List.mem_cons_of_mem _ List.mem_cons_self, rfl⟩

/-- A document of a package is that of the manifest, of the test or of an item. -/
theorem Writer.mem_documents {writer : Writer} {document : Document}
    (member : document ∈ (writer.package planned quiz assets).documents) :
    document = writer.manifestDocument planned.manifest ∨
      document = writer.testDocument planned.test ∨
      ∃ item ∈ planned.items, document = writer.itemDocument item := by
  rcases List.mem_cons.mp member with manifest | member
  · exact .inl manifest
  · rcases List.mem_cons.mp member with test | member
    · exact .inr (.inl test)
    · obtain ⟨item, listed, equal⟩ := List.mem_map.mp member
      exact .inr (.inr ⟨item, listed, equal.symm⟩)

theorem Plan.BuiltFrom.document_issued (built : planned.BuiltFrom quiz assets shuffle)
    {writer : Writer} {document : Document} {name : Identifier}
    (member : document ∈ (writer.package planned quiz assets).documents)
    (refers : name ∈ document.references) :
    planned.registry.isIssuedFor document.identifier name = true := by
  rcases Writer.mem_documents member with rfl | rfl | ⟨item, listed, rfl⟩
  · exact built.manifest_issued refers
  · exact built.test_issued refers
  · obtain ⟨piece, _, single⟩ := exists_of_forall₂_right built.items listed
    exact single.issued built.sound refers

theorem Registry.Sound.isIssuedFor_plain (sound : registry.Sound) {document name : Identifier}
    (issued : registry.isIssuedFor document name = true) : IsPlain name.text := by
  rcases Bool.or_eq_true_iff.mp issued with issued | owned
  · exact sound.contains_plain issued
  · exact sound.isVariableOf_plain owned

/-- What a document refers to stands in quotes in its body. -/
theorem Plan.BuiltFrom.document_quoted (built : planned.BuiltFrom quiz assets shuffle)
    {document : Document} {name : Identifier}
    (member : document ∈ (format.writer.package planned quiz assets).documents)
    (refers : name ∈ document.references) :
    Text.contains document.body ("\"" ++ name.text ++ "\"") = true := by
  have plain := built.sound.isIssuedFor_plain (built.document_issued member refers)
  rcases Writer.mem_documents member with rfl | rfl | ⟨item, listed, rfl⟩
  · exact (Manifest.block_shows format refers).quoted plain format
  · exact (Test.block_shows format refers).quoted plain format
  · exact (Item.block_shows format refers).quoted plain format

theorem Plan.BuiltFrom.document_written (built : planned.BuiltFrom quiz assets shuffle)
    {document : Document} {name : Identifier}
    (member : document ∈ (format.writer.package planned quiz assets).documents)
    (refers : name ∈ document.references) :
    Text.contains document.body name.text = true :=
  Text.contains_trans (built.document_quoted member refers)
    (Text.contains_append_left (Text.contains_append_right (Text.contains_self _)))

theorem Plan.BuiltFrom.resource_leads (built : planned.BuiltFrom quiz assets shuffle)
    (writer : Writer) {resource : Resource} (listed : resource ∈ planned.manifest.resources) :
    resource.LeadsInto (writer.package planned quiz assets) := by
  obtain ⟨itemResources, assetResources, split, items, embedded⟩ := built.resources
  have single := listed
  rw [split, List.cons_append, List.mem_cons, List.mem_append] at single
  rcases single with rfl | single | single
  · exact ⟨_, writer.testDocument_mem planned quiz assets, rfl, rfl⟩
  · obtain ⟨item, inside, dependencies, _, rfl⟩ := exists_of_forall₂_right items single
    refine ⟨writer.itemDocument item, ?_, rfl, rfl⟩
    rw [Writer.documentsOf_item]
    exact List.mem_map_of_mem inside
  · obtain ⟨name, _, isAsset⟩ := exists_of_forall₂_right embedded single
    obtain ⟨file, found, path, href⟩ := isAsset.assetFile?
    obtain ⟨identifier, asset, _, _, rfl⟩ := isAsset
    refine ⟨file, ?_, path⟩
    rw [Writer.package, (resourcesOf_split split items embedded).2]
    exact List.mem_filterMap.mpr ⟨_, single, found⟩

theorem Plan.BuiltFrom.dependency_listed (built : planned.BuiltFrom quiz assets shuffle)
    {resource : Resource} (listed : resource ∈ planned.manifest.resources)
    {dependency : Identifier} (needs : dependency ∈ resource.dependencies) :
    ∃ needed ∈ planned.manifest.resources, needed.identifier = dependency := by
  obtain ⟨itemResources, assetResources, split, items, embedded⟩ := built.resources
  have single := listed
  rw [split, List.cons_append, List.mem_cons, List.mem_append] at single
  rw [split]
  rcases single with rfl | single | single
  · obtain ⟨item, inside, rfl⟩ := built.mem_test_items needs
    obtain ⟨needed, found, dependencies, _, rfl⟩ := exists_of_forall₂_left items inside
    exact ⟨_, List.mem_append_left _ (List.mem_cons_of_mem _ found), rfl⟩
  · obtain ⟨item, inside, dependencies, bound, rfl⟩ := exists_of_forall₂_right items single
    obtain ⟨name, used, known⟩ := exists_of_forall₂_right bound needs
    have embeds : name ∈ (planned.items.flatMap Item.assets).eraseDups :=
      List.mem_eraseDups.mpr (List.mem_flatMap.mpr ⟨item, inside, used⟩)
    obtain ⟨needed, found, identifier, asset, same, _, rfl⟩ :=
      exists_of_forall₂_left embedded embeds
    rw [known] at same
    exact ⟨_, List.mem_append_right _ found, (Option.some.inj same).symm⟩
  · obtain ⟨name, _, identifier, asset, _, _, rfl⟩ := exists_of_forall₂_right embedded single
    cases needs

/-- The package that is written for a plan is intact if what its documents refer to is written in
them. -/
theorem Plan.BuiltFrom.intact_of_written (built : planned.BuiltFrom quiz assets shuffle)
    (writer : Writer)
    (written : ∀ document ∈ (writer.package planned quiz assets).documents,
      ∀ name ∈ document.references, Text.contains document.body name.text = true) :
    (writer.package planned quiz assets).Intact planned where
  pathsDistinct := (built.paths writer).2
  issued := fun document member name refers => built.document_issued member refers
  written := written
  itemsResolve := by
    intro reference member
    rw [built.test_items] at member
    obtain ⟨item, listed, rfl⟩ := List.mem_map.mp member
    refine ⟨rfl, writer.itemDocument item, ?_, rfl⟩
    rw [Writer.documentsOf_item]
    exact List.mem_map_of_mem listed
  resourcesResolve := fun resource member => built.resource_leads writer member
  dependenciesResolve := fun resource member dependency needs =>
    built.dependency_listed member needs
  listedOnce := by
    intro path member other
    obtain ⟨paths, distinct⟩ := built.paths writer
    rw [paths] at member distinct
    have listed := (List.mem_cons.mp member).resolve_left other
    have once := List.count_eq_one_of_mem (List.nodup_cons.mp distinct).2 listed
    rwa [List.count, List.countP_map] at once

/-- The package that is written for a plan is intact, in either version of the format. -/
theorem Plan.BuiltFrom.intact (built : planned.BuiltFrom quiz assets shuffle) (format : Format) :
    (format.writer.package planned quiz assets).Intact planned :=
  built.intact_of_written format.writer fun _ member _ refers =>
    built.document_written member refers

/-- Generating fails only as planning does. On a plan that succeeds it returns the package that is
written for it, which is intact. -/
theorem generate_succeeds_with_plan (format : Format) (options : Options) (quiz : Quiz)
    (assets : AssetMap) :
    generate format.writer options quiz assets =
      (plan options quiz assets).map (fun planned => format.writer.package planned quiz assets) ∧
    ∀ planned, plan options quiz assets = .ok planned →
      (format.writer.package planned quiz assets).Intact planned ∧
      checkIntegrity (format.writer.package planned quiz assets) planned = .ok () := by
  have intact : ∀ planned, plan options quiz assets = .ok planned →
      (format.writer.package planned quiz assets).Intact planned :=
    fun planned ran => (plan_ok ran).intact format
  refine ⟨?_, fun planned ran => ⟨intact planned ran, checkIntegrity_of_intact (intact planned ran)⟩⟩
  unfold generate
  cases ran : plan options quiz assets with
  | error problem => rfl
  | ok planned =>
      change (checkIntegrity (format.writer.package planned quiz assets) planned).bind _ = _
      rw [checkIntegrity_of_intact (intact planned ran)]
      rfl

end QuizPackage
