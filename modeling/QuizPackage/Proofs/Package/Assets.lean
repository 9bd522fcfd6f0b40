import QuizPackage.Proofs.Package.Calls
import QuizPackage.Proofs.Package.Faults
import QuizPackage.Proofs.Package.Plan

namespace QuizPackage

/-- A resource depends on the assets with some names, in their order and on nothing else. -/
def Resource.Needs (manifest : Manifest) (names : List String) (resource : Resource) : Prop :=
  List.Forall₂ (fun name dependency => ∃ needed ∈ manifest.resourcesOf .asset,
    needed.identifier = dependency ∧ needed.href = assetPath name) names resource.dependencies

/-- A manifest has one resource for each asset that a quiz lists, and the resource of each piece
depends on those of its own assets, once. -/
structure Manifest.ListsAssets (manifest : Manifest) (quiz : Quiz) : Prop where
  distinct : ((manifest.resourcesOf .asset).map Resource.identifier).Nodup
  hrefs : (manifest.resourcesOf .asset).map Resource.href = quiz.assets.eraseDups.map assetPath
  needed : List.Forall₂ (fun piece resource => resource.dependencies.Nodup ∧
    resource.Needs manifest piece.assets.eraseDups) quiz.pieces (manifest.resourcesOf .item)

/-- A file is the asset with a name, as a map holds it. -/
def AssetFile.IsAsset (assets : AssetMap) (name : String) (file : AssetFile) : Prop :=
  ∃ asset, assets.lookup name = some asset ∧
    file = ⟨name, assetPath name, asset.mediaType, asset.bytes⟩

/-- Two maps hold the same assets under some names. -/
def AssetMap.AgreeOn (names : List String) (assets others : AssetMap) : Prop :=
  ∀ name ∈ names, others.lookup name = assets.lookup name

variable {quiz : Quiz} {assets others : AssetMap} {options : Options} {planned : Plan}
  {shuffle : Bool} {writer : Writer} {package : Package} {registry after : Registry}
  {names : List String} {resources : List Resource} {items : List Item} {item : Item}
  {α β : Type}

theorem builtPieces_assets {pieces : List Piece}
    (built : List.Forall₂ (Piece.BuiltAs registry shuffle) pieces items) :
    items.map Item.assets = pieces.map fun piece => piece.assets.eraseDups := by
  induction built with
  | nil => rfl
  | cons single _ ih => rw [List.map_cons, List.map_cons, single.assets, ih]

/-- The names that items list are those that the quiz lists, in the same order. -/
theorem Plan.BuiltFrom.asset_names (built : planned.BuiltFrom quiz assets shuffle) :
    (planned.items.flatMap Item.assets).eraseDups = quiz.assets.eraseDups := by
  rw [List.flatMap_def, builtPieces_assets built.items, ← List.flatMap_def,
    eraseDups_flatMap_eraseDups, Quiz.assets_eq]

theorem builtPieces_assets_subset
    (built : List.Forall₂ (Piece.BuiltAs registry shuffle) quiz.pieces items)
    (member : item ∈ items) : item.assets ⊆ quiz.assets := by
  obtain ⟨piece, listed, single⟩ := exists_of_forall₂_right built member
  intro name used
  rw [single.assets, List.mem_eraseDups] at used
  rw [Quiz.assets_eq]
  exact List.mem_flatMap.mpr ⟨piece, listed, used⟩

/-- The resources of a plan after that of its test: one for each item, then one for each asset that
the quiz lists. -/
theorem Plan.BuiltFrom.listed (built : planned.BuiltFrom quiz assets shuffle) :
    List.Forall₂ (Item.ListedAs planned.registry) planned.items
        (planned.manifest.resourcesOf .item) ∧
      List.Forall₂ (Resource.IsAsset assets planned.registry) quiz.assets.eraseDups
        (planned.manifest.resourcesOf .asset) := by
  obtain ⟨itemResources, assetResources, split, items, embedded⟩ := built.resources
  obtain ⟨ofItems, ofAssets⟩ := resourcesOf_split split items embedded
  rw [ofItems, ofAssets, ← built.asset_names]
  exact ⟨items, embedded⟩

theorem Resource.IsAsset.assetFile?_eq {name : String} {resource : Resource}
    (single : resource.IsAsset assets registry name) (others : AssetMap) :
    resource.assetFile? others = (others.lookup name).map fun asset =>
      ⟨name, assetPath name, asset.mediaType, asset.bytes⟩ := by
  obtain ⟨identifier, asset, _, _, rfl⟩ := single
  rw [Resource.assetFile?, assetName?_assetPath, Option.bind_eq_bind, Option.bind_some]
  cases others.lookup name <;> rfl

theorem assetFiles_of_listed
    (listed : List.Forall₂ (Resource.IsAsset assets registry) names resources) :
    List.Forall₂ (AssetFile.IsAsset assets) names
      (resources.filterMap (Resource.assetFile? assets)) := by
  induction listed with
  | nil => exact .nil
  | cons single _ ih =>
      have found := single.assetFile?_eq assets
      obtain ⟨_, asset, _, atHand, _⟩ := single
      rw [atHand] at found
      rw [List.filterMap_cons_some found]
      exact .cons ⟨asset, atHand, rfl⟩ ih

/-- An item depends on the resources of its own assets. -/
theorem Item.ListedAs.needs {resource : Resource} {manifest : Manifest}
    (listed : item.ListedAs registry resource) (used : item.assets ⊆ names)
    (embedded : List.Forall₂ (Resource.IsAsset assets registry) names
      (manifest.resourcesOf .asset)) : resource.Needs manifest item.assets := by
  obtain ⟨dependencies, bound, rfl⟩ := listed
  change List.Forall₂ _ item.assets dependencies
  generalize item.assets = own at used bound ⊢
  induction bound with
  | nil => exact .nil
  | cons known _ ih =>
      obtain ⟨inside, others⟩ := List.cons_subset.mp used
      obtain ⟨needed, found, identifier, asset, same, _, rfl⟩ :=
        exists_of_forall₂_left embedded inside
      rw [known] at same
      exact .cons ⟨_, found, (Option.some.inj same).symm, rfl⟩ (ih others)

theorem Item.ListedAs.dependencies_nodup {resource : Resource} (sound : registry.Sound)
    (listed : item.ListedAs registry resource) (distinct : item.assets.Nodup) :
    resource.dependencies.Nodup := by
  obtain ⟨dependencies, bound, rfl⟩ := listed
  exact sound.assets_nodup bound distinct

theorem builtPieces_need {pieces : List Piece} {manifest : Manifest} (sound : registry.Sound)
    (built : List.Forall₂ (Piece.BuiltAs registry shuffle) pieces items)
    (listed : List.Forall₂ (Item.ListedAs registry) items resources)
    (used : ∀ item ∈ items, item.assets ⊆ names)
    (embedded : List.Forall₂ (Resource.IsAsset assets registry) names
      (manifest.resourcesOf .asset)) :
    List.Forall₂ (fun piece resource => resource.dependencies.Nodup ∧
      resource.Needs manifest piece.assets.eraseDups) pieces resources := by
  induction built generalizing resources with
  | nil =>
      cases listed
      exact .nil
  | cons single _ ih =>
      rw [List.forall_mem_cons] at used
      cases listed with
      | cons one others =>
          refine .cons ?_ (ih others used.2)
          rw [← single.assets]
          exact ⟨one.dependencies_nodup sound (single.assets ▸ nodup_eraseDups _),
            one.needs used.1 embedded⟩

theorem Plan.BuiltFrom.listsAssets (built : planned.BuiltFrom quiz assets shuffle) :
    planned.manifest.ListsAssets quiz := by
  obtain ⟨items, embedded⟩ := built.listed
  refine ⟨assetResources_nodup built.sound (nodup_eraseDups _) embedded,
    assetResources_hrefs embedded, ?_⟩
  refine builtPieces_need built.sound built.items items (fun item member => ?_) embedded
  intro name used
  exact List.mem_eraseDups.mpr (builtPieces_assets_subset built.items member used)

theorem Issuing.mapM_congr {step other : α → Issuing β} {values : List α}
    (same : ∀ value ∈ values, step value = other value) : values.mapM step = values.mapM other := by
  induction values with
  | nil => rfl
  | cons value rest ih =>
      rw [List.forall_mem_cons] at same
      rw [List.mapM_cons, List.mapM_cons, same.1, ih same.2]

theorem Issuing.bind_congr_of_ok {step : Issuing α} {next other : α → Issuing β}
    (same : ∀ value middle, step registry = .ok value middle → next value = other value) :
    (step >>= next) registry = (step >>= other) registry := by
  change EStateM.bind step next registry = EStateM.bind step other registry
  unfold EStateM.bind
  cases ran : step registry with
  | error problem middle => rfl
  | ok value middle =>
      dsimp only
      rw [same value middle ran]

theorem listAsset_congr {name : String} (same : others.lookup name = assets.lookup name)
    (owner : Identifier) : listAsset others owner name = listAsset assets owner name := by
  rw [listAsset_eq, listAsset_eq, same]

theorem listItem_congr (same : assets.AgreeOn item.assets others) :
    listItem others item = listItem assets item := by
  unfold listItem
  rw [Issuing.mapM_congr fun name member => listAsset_congr (same name member) item.identifier]

/-- A manifest depends on a map only through the assets of its items. -/
theorem buildManifest_congr (test : Test)
    (same : ∀ item ∈ items, assets.AgreeOn item.assets others) :
    buildManifest quiz test items others = buildManifest quiz test items assets := by
  unfold buildManifest
  rw [Issuing.mapM_congr fun item member => listItem_congr (same item member)]

theorem plan_congr (same : assets.AgreeOn quiz.assets others) :
    plan options quiz others = plan options quiz assets := by
  have alike : buildAll quiz others options.shuffle
        (Registry.empty options.suffix options.strict) =
      buildAll quiz assets options.shuffle (Registry.empty options.suffix options.strict) := by
    refine Issuing.bind_congr_of_ok fun items middle built => ?_
    have agreed : ∀ item ∈ items, assets.AgreeOn item.assets others := fun item member name used =>
      same name (builtPieces_assets_subset (buildItems_ok built) member used)
    simp only [buildManifest_congr _ agreed]
  rw [plan, alike, plan]

theorem Plan.BuiltFrom.package_congr (built : planned.BuiltFrom quiz assets shuffle)
    (same : assets.AgreeOn quiz.assets others) :
    writer.package planned quiz others = writer.package planned quiz assets := by
  have files : (planned.manifest.resourcesOf .asset).filterMap (Resource.assetFile? others) =
      (planned.manifest.resourcesOf .asset).filterMap (Resource.assetFile? assets) := by
    refine List.filterMap_congr fun resource member => ?_
    obtain ⟨name, used, single⟩ := exists_of_forall₂_right built.listed.2 member
    rw [single.assetFile?_eq, single.assetFile?_eq, same name (List.mem_eraseDups.mp used)]
  rw [Writer.package, Writer.package, files]

/-- Assets that a quiz does not list decide nothing about its package. -/
theorem generate_congr (same : assets.AgreeOn quiz.assets others) :
    generate writer options quiz others = generate writer options quiz assets := by
  unfold generate
  rw [plan_congr same]
  cases made : plan options quiz assets with
  | error problem => rfl
  | ok planned =>
      change (checkIntegrity (writer.package planned quiz others) planned).bind _ =
        (checkIntegrity (writer.package planned quiz assets) planned).bind _
      rw [(plan_ok made).package_congr same]

/-- A generated package embeds exactly the assets that its quiz lists, each once, in the order of
their first use and as the map holds them. Its manifest lists them so, too, and each item depends on
those of its own piece. Maps that agree on what the quiz lists come to one package. -/
theorem generated_package_embeds_listed_assets
    (ran : generate writer options quiz assets = .ok package) :
    List.Forall₂ (AssetFile.IsAsset assets) quiz.assets.eraseDups package.assets ∧
    (∃ planned, plan options quiz assets = .ok planned ∧
      package = writer.package planned quiz assets ∧ planned.manifest.ListsAssets quiz) ∧
    ∀ others, assets.AgreeOn quiz.assets others →
      generate writer options quiz others = .ok package := by
  obtain ⟨planned, made, rfl⟩ := generate_ok ran
  have built := plan_ok made
  exact ⟨assetFiles_of_listed built.listed.2, ⟨planned, made, rfl, built.listsAssets⟩,
    fun others same => (generate_congr same).trans ran⟩

theorem voyage_embeds_chart :
    ∃ package, generate Format.qti30.writer ⟨false, "", false⟩ voyage charts = .ok package ∧
      package.assets = [⟨"chart.png", "assets/chart.png", "image/png", .empty⟩] ∧
      generate Format.qti30.writer ⟨false, "", false⟩ voyage
        (("spare.png", ⟨.empty, "image/png"⟩) :: charts) = .ok package := by
  have computed : (plan ⟨false, "", false⟩ voyage charts).toOption.map
      (fun planned => planned.items.length) = some 2 := by
    decide +kernel
  obtain ⟨planned, made, _⟩ := plan_observed _ computed
  obtain ⟨embedded, _, alike⟩ :=
    generated_package_embeds_listed_assets (generate_format .qti30 made)
  have listed : voyage.assets.eraseDups = ["chart.png"] := by decide
  rw [listed] at embedded
  refine ⟨_, generate_format .qti30 made, ?_, alike _ fun name used => ?_⟩
  · obtain ⟨file, rest, ⟨asset, atHand, rfl⟩, none, split⟩ := List.forall₂_cons_left_iff.mp embedded
    cases atHand
    rw [split, List.forall₂_nil_left_iff.mp none]
    rfl
  · rw [← List.mem_eraseDups, listed, List.mem_singleton] at used
    subst used
    rfl

end QuizPackage
