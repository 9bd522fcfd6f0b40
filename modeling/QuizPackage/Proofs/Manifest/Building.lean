import QuizPackage.Manifest.Building
import QuizPackage.Proofs.Identifier.Steps
import Mathlib.Data.List.Forall2

namespace QuizPackage

inductive Entity.IsOfManifest : Entity → Prop
  | manifest : IsOfManifest .manifest
  | asset (name : String) : IsOfManifest (.asset name)

/-- A resource is that of an asset which is at hand and bound. -/
def Resource.IsAsset (assets : AssetMap) (registry : Registry) (name : String)
    (resource : Resource) : Prop :=
  ∃ identifier asset, registry.lookup (.asset name) = some identifier ∧
    assets.lookup name = some asset ∧
    resource = ⟨identifier, .asset, assetPath name, [], [], some asset.mediaType⟩

/-- The names that a registry has bound no asset to, each once. -/
def Registry.unlisted (registry : Registry) (names : List String) : List String :=
  (names.filter fun name => (registry.lookup (.asset name)).isNone).eraseDups

/-- The assets of some names are bound, and the resources are those of the ones that were not bound
before. -/
structure Registry.Lists (assets : AssetMap) (before : Registry) (names : List String)
    (resources : List Resource) (after : Registry) : Prop where
  reaches : before.Reaches Entity.IsOfManifest after
  bound : ∀ name ∈ names, (after.lookup (.asset name)).isSome = true
  unchanged : ∀ name ∉ names, after.lookup (.asset name) = before.lookup (.asset name)
  resources : List.Forall₂ (Resource.IsAsset assets after) (before.unlisted names) resources

def Item.ListedAs (registry : Registry) (item : Item) (resource : Resource) : Prop :=
  ∃ dependencies, List.Forall₂ (fun name dependency =>
      registry.lookup (.asset name) = some dependency) item.assets dependencies ∧
    resource = ⟨item.identifier, .item, itemPath item.identifier, item.interactionKinds,
      dependencies, none⟩

theorem nodup_eraseDups (names : List String) : names.eraseDups.Nodup := by
  match names with
  | [] => exact List.nodup_nil
  | name :: rest =>
      rw [List.eraseDups_cons, List.nodup_cons, List.mem_eraseDups]
      exact ⟨by simp, nodup_eraseDups (rest.filter fun other => !other == name)⟩
termination_by names.length
decreasing_by exact Nat.lt_succ_of_le (List.length_filter_le _ _)

theorem filter_eraseDups (wanted : String → Bool) (names : List String) :
    (names.filter wanted).eraseDups = names.eraseDups.filter wanted := by
  match names with
  | [] => rfl
  | name :: rest =>
      have others := filter_eraseDups wanted (rest.filter fun other => !other == name)
      rw [List.eraseDups_cons, List.filter_cons, List.filter_cons, ← others, List.filter_filter]
      split
      · rw [List.eraseDups_cons, List.filter_filter]
        simp only [Bool.and_comm]
      · rename_i unwanted
        congr 1
        refine List.filter_congr fun other _ => ?_
        by_cases same : other = name
        · simp [same, unwanted]
        · simp [same]
termination_by names.length
decreasing_by exact Nat.lt_succ_of_le (List.length_filter_le _ _)

theorem find?_eraseDups (wanted : String → Bool) (names : List String) :
    names.eraseDups.find? wanted = names.find? wanted := by
  rw [← List.head?_filter, ← filter_eraseDups, ← List.head?_filter]
  cases names.filter wanted with
  | nil => rfl
  | cons name rest =>
      rw [List.eraseDups_cons]
      rfl

theorem eraseDups_eraseDups (names : List String) :
    names.eraseDups.eraseDups = names.eraseDups := by
  induction names with
  | nil => rfl
  | cons name rest ih =>
      rw [List.eraseDups_cons, filter_eraseDups, List.eraseDups_cons, List.filter_filter]
      simp only [Bool.and_self]
      rw [filter_eraseDups, ih]

/-- Names that are listed part by part are the same without repetitions, whether the parts repeat
them or not. -/
theorem eraseDups_flatMap_eraseDups {α : Type} (names : α → List String) (parts : List α) :
    (parts.flatMap fun part => (names part).eraseDups).eraseDups =
      (parts.flatMap names).eraseDups := by
  induction parts with
  | nil => rfl
  | cons part rest ih =>
      rw [List.flatMap_cons, List.flatMap_cons, List.eraseDups_append, List.eraseDups_append,
        eraseDups_eraseDups]
      congr 1
      rw [List.removeAll, List.removeAll, filter_eraseDups, filter_eraseDups, ih]
      refine List.filter_congr fun name _ => ?_
      simp

variable {registry before middle after : Registry} {permitted : Entity → Prop}
  {assets : AssetMap} {names others : List String} {resources more : List Resource}

theorem Resource.IsAsset.mono {name : String} {resource : Resource}
    (single : resource.IsAsset assets before name) (reaches : before.Reaches permitted after) :
    resource.IsAsset assets after name := by
  obtain ⟨identifier, asset, bound, atHand, rfl⟩ := single
  exact ⟨identifier, asset, reaches.lookup_eq_some bound, atHand, rfl⟩

theorem Item.ListedAs.mono {item : Item} {resource : Resource}
    (listed : item.ListedAs before resource) (reaches : before.Reaches permitted after) :
    item.ListedAs after resource := by
  obtain ⟨dependencies, bound, rfl⟩ := listed
  exact ⟨dependencies, bound.imp fun _ _ known => reaches.lookup_eq_some known, rfl⟩

theorem assetPath_injective : Function.Injective assetPath := by
  intro first second equal
  simpa [assetPath] using equal

theorem assetResources_hrefs
    (listed : List.Forall₂ (Resource.IsAsset assets registry) names resources) :
    resources.map Resource.href = names.map assetPath := by
  induction listed with
  | nil => rfl
  | cons single _ ih =>
      obtain ⟨identifier, asset, _, _, rfl⟩ := single
      rw [List.map_cons, List.map_cons, ih]

/-- Distinct assets have distinct identifiers. -/
theorem Registry.Sound.assets_nodup {identifiers : List Identifier} (sound : registry.Sound)
    (bound : List.Forall₂ (fun name identifier =>
      registry.lookup (.asset name) = some identifier) names identifiers)
    (distinct : names.Nodup) : identifiers.Nodup :=
  sound.lookups_nodup (fun _ _ => Entity.asset.inj) bound distinct

theorem assetResources_nodup (sound : registry.Sound) (distinct : names.Nodup)
    (listed : List.Forall₂ (Resource.IsAsset assets registry) names resources) :
    (resources.map Resource.identifier).Nodup := by
  refine sound.assets_nodup (List.forall₂_map_right_iff.mpr (listed.imp ?_)) distinct
  rintro name resource ⟨identifier, asset, bound, _, rfl⟩
  exact bound

theorem filter_kind {kind wanted : ResourceKind}
    (same : ∀ resource ∈ resources, resource.kind = kind) :
    resources.filter (fun resource => resource.kind == wanted) =
      if kind = wanted then resources else [] := by
  split
  · rename_i equal
    exact List.filter_eq_self.mpr fun resource member => by simp [same resource member, equal]
  · rename_i other
    exact List.filter_eq_nil_iff.mpr fun resource member => by simp [same resource member, other]

/-- After its test, a manifest lists the items and then the assets. -/
theorem resourcesOf_split {manifest : Manifest} {test : Test} {items : List Item}
    {itemResources assetResources : List Resource}
    (split : manifest.resources = listTest test :: itemResources ++ assetResources)
    (ofItems : List.Forall₂ (Item.ListedAs registry) items itemResources)
    (embedded : List.Forall₂ (Resource.IsAsset assets registry) names assetResources) :
    manifest.resourcesOf .item = itemResources ∧ manifest.resourcesOf .asset = assetResources := by
  have itemKinds : ∀ resource ∈ itemResources, resource.kind = .item := by
    intro resource member
    obtain ⟨item, _, dependencies, _, rfl⟩ := exists_of_forall₂_right ofItems member
    rfl
  have assetKinds : ∀ resource ∈ assetResources, resource.kind = .asset := by
    intro resource member
    obtain ⟨name, _, identifier, asset, _, _, rfl⟩ := exists_of_forall₂_right embedded member
    rfl
  simp [Manifest.resourcesOf, split, listTest, Resource.plain, filter_kind itemKinds,
    filter_kind assetKinds]

theorem Registry.mem_unlisted {name : String} :
    name ∈ registry.unlisted names ↔ name ∈ names ∧ registry.lookup (.asset name) = none := by
  rw [Registry.unlisted, List.mem_eraseDups, List.mem_filter, Option.isNone_iff_eq_none]

/-- Names that are bound on the way are not bound again. -/
theorem Registry.Lists.unlisted_append (first : before.Lists assets names resources middle)
    (others : List String) :
    before.unlisted (names ++ others) = before.unlisted names ++ middle.unlisted others := by
  unfold Registry.unlisted
  rw [List.filter_append, List.eraseDups_append]
  congr 2
  rw [List.removeAll, List.filter_filter]
  refine List.filter_congr fun name _ => ?_
  by_cases member : name ∈ names
  · have bound := first.bound name member
    cases unbound : (before.lookup (.asset name)).isNone <;>
      simp_all [Option.isSome_iff_ne_none]
  · rw [first.unchanged name member]
    simp [member]

theorem Registry.Lists.refl (registry : Registry) : registry.Lists assets [] [] registry where
  reaches := .refl registry
  bound := by simp
  unchanged := fun _ _ => rfl
  resources := .nil

theorem Registry.Lists.trans (first : before.Lists assets names resources middle)
    (second : middle.Lists assets others more after) :
    before.Lists assets (names ++ others) (resources ++ more) after where
  reaches := first.reaches.trans second.reaches
  bound := by
    intro name member
    rcases List.mem_append.mp member with member | member
    · obtain ⟨identifier, known⟩ := Option.isSome_iff_exists.mp (first.bound name member)
      rw [second.reaches.lookup_eq_some known, Option.isSome_some]
    · exact second.bound name member
  unchanged := by
    intro name absent
    rw [List.mem_append, not_or] at absent
    rw [second.unchanged name absent.2, first.unchanged name absent.1]
  resources := by
    rw [first.unlisted_append]
    exact List.rel_append (first.resources.imp fun _ _ single => single.mono second.reaches)
      second.resources

theorem Registry.Lists.single {name : String} {identifier : Identifier} {asset : Asset}
    (unbound : before.lookup (.asset name) = none) (atHand : assets.lookup name = some asset)
    (issued : issueFor (.asset name) .asset (some name) before = .ok identifier after) :
    before.Lists assets [name]
      [⟨identifier, .asset, assetPath name, [], [], some asset.mediaType⟩] after := by
  have bound := issueFor_ok issued
  refine {
    reaches := (issueFor_within _ _ _ (.asset name)).reaches issued
    bound := by simp [bound]
    unchanged := ?_
    resources := ?_ }
  · intro other absent
    have elsewhere : before.Reaches (Eq (.asset name)) after :=
      (issueFor_within _ _ _ rfl).reaches issued
    refine elsewhere.lookup_eq fun same => absent ?_
    cases same
    exact List.mem_cons_self
  · have fresh : before.unlisted [name] = [name] := by
      simp [Registry.unlisted, unbound, List.eraseDups_cons]
    rw [fresh]
    exact .cons ⟨identifier, asset, bound, atHand, rfl⟩ .nil

/-- An asset that is bound already is not listed again. -/
theorem Registry.Lists.known {name : String} {identifier : Identifier}
    (bound : registry.lookup (.asset name) = some identifier) :
    registry.Lists assets [name] [] registry where
  reaches := .refl registry
  bound := by simp [bound]
  unchanged := fun _ _ => rfl
  resources := by
    have listed : registry.unlisted [name] = [] := by
      simp [Registry.unlisted, bound]
    rw [listed]
    exact .nil

theorem listAsset_ok {item : Identifier} {name : String} {result : Identifier × List Resource}
    (ran : listAsset assets item name before = .ok result after) :
    before.Lists assets [name] result.2 after ∧
      after.lookup (.asset name) = some result.1 := by
  cases atHand : assets.lookup name with
  | none =>
      simp only [listAsset, atHand] at ran
      cases ran
  | some asset =>
      simp only [listAsset, atHand] at ran
      obtain ⟨current, middle, got, ran⟩ := Issuing.bind_ok.mp ran
      cases got
      cases bound : before.lookup (.asset name) with
      | some identifier =>
          simp only [bound] at ran
          cases ran
          exact ⟨.known bound, bound⟩
      | none =>
          simp only [bound] at ran
          obtain ⟨identifier, last, issued, finished⟩ := Issuing.bind_ok.mp ran
          cases finished
          exact ⟨.single bound atHand issued, issueFor_ok issued⟩

theorem listAsset_within (assets : AssetMap) (item : Identifier) (name : String) :
    (listAsset assets item name).Within Entity.IsOfManifest := by
  unfold listAsset
  split
  · exact .stop _
  · refine Issuing.Within.get.bind fun current => ?_
    split
    · exact .pure _
    · refine (issueFor_within _ _ _ (.asset name)).bind fun identifier => ?_
      exact .pure _

/-- Whether an asset is not at hand. -/
def AssetMap.lacks (assets : AssetMap) (name : String) : Bool :=
  !(assets.map Prod.fst).contains name

/-- Why an asset cannot be listed. -/
def AssetMap.problem? (assets : AssetMap) (item : Identifier) (name : String) : Option Problem :=
  if assets.lacks name then some (.integrity (.missingAsset item name)) else none

theorem AssetMap.lacks_iff {name : String} :
    assets.lacks name = true ↔ assets.lookup name = none := by
  rw [lookup_eq_none_iff_not_mem]
  simp [AssetMap.lacks]

theorem listAsset_verdict (lenient : registry.strict = false) (assets : AssetMap)
    (item : Identifier) (name : String) :
    (listAsset assets item name).verdict registry = assets.problem? item name := by
  unfold AssetMap.problem?
  cases atHand : assets.lookup name with
  | none =>
      have stopped : listAsset assets item name =
          Issuing.stop (.integrity (.missingAsset item name)) := by
        simp [listAsset, atHand]
      rw [stopped, if_pos (AssetMap.lacks_iff.mpr atHand)]
      rfl
  | some asset =>
      have held : ¬assets.lacks name = true := by
        rw [AssetMap.lacks_iff, atHand]
        simp
      rw [if_neg held]
      have listing : (listAsset assets item name).Lenient := by
        simp only [listAsset, atHand]
        refine Issuing.Lenient.get.bind fun current => ?_
        split
        · exact .pure _
        · exact (issueFor_lenient _ _ _).bind fun identifier => .pure _
      obtain ⟨result, after, ran, _⟩ := listing registry lenient
      exact Issuing.verdict_eq_none.mpr ⟨result, after, ran⟩

/-- Why an item cannot be listed: the first of its assets that is not at hand. -/
def Item.problem? (assets : AssetMap) (item : Item) : Option Problem :=
  (item.assets.find? assets.lacks).map fun name =>
    .integrity (.missingAsset item.identifier name)

theorem Item.problem?_eq (assets : AssetMap) (item : Item) :
    item.problem? assets = item.assets.findSome? (assets.problem? item.identifier) := by
  rw [Item.problem?, List.find?_eq_findSome?_guard, List.map_findSome?]
  congr 1
  funext name
  simp only [Function.comp, Option.guard, AssetMap.problem?]
  split <;> rfl

theorem listItem_within (assets : AssetMap) (item : Item) :
    (listItem assets item).Within Entity.IsOfManifest := by
  refine (Issuing.Within.mapM _ fun name _ => listAsset_within _ _ _).bind fun listed => ?_
  exact .pure _

theorem listItem_ok {item : Item} {result : Resource × List Resource}
    (ran : listItem assets item before = .ok result after) :
    before.Lists assets item.assets result.2 after ∧ item.ListedAs after result.1 := by
  obtain ⟨listed, last, all, finished⟩ := Issuing.bind_ok.mp ran
  cases finished
  have linked := Issuing.mapM_linked
    (fun names results before after =>
      before.Lists assets names (results.flatMap Prod.snd) after ∧
      List.Forall₂ (fun name result => after.lookup (.asset name) = some result.1) names results)
    (fun registry => ⟨.refl registry, .nil⟩)
    (fun name result rest others before middle after one more => by
      obtain ⟨lists, bound⟩ := listAsset_ok one
      exact ⟨lists.trans more.1, .cons (more.1.reaches.lookup_eq_some bound) more.2⟩) all
  exact ⟨linked.1, listed.map Prod.fst, List.forall₂_map_right_iff.mpr linked.2, rfl⟩

theorem listItem_verdict (lenient : registry.strict = false) (assets : AssetMap) (item : Item) :
    (listItem assets item).verdict registry = item.problem? assets := by
  rw [Item.problem?_eq]
  exact (Issuing.verdict_map _ _).trans
    (Issuing.verdict_mapM _ (fun name _ => listAsset_within assets item.identifier name)
      fun _ _ _ reaches => listAsset_verdict (reaches.grows.strict.trans lenient) _ _ _)

/-- What a registry holds of a manifest. Assets that were bound at the start are not listed
again. -/
structure Manifest.BuiltFrom (manifest : Manifest) (start : Registry) (test : Test)
    (items : List Item) (assets : AssetMap) (registry : Registry) : Prop where
  identifier : registry.lookup .manifest = some manifest.identifier
  resources : ∃ itemResources assetResources,
    manifest.resources = listTest test :: itemResources ++ assetResources ∧
    List.Forall₂ (Item.ListedAs registry) items itemResources ∧
    List.Forall₂ (Resource.IsAsset assets registry) (start.unlisted (items.flatMap Item.assets))
      assetResources
  listed : ∀ name ∈ items.flatMap Item.assets, (registry.lookup (.asset name)).isSome = true

theorem buildManifest_within (quiz : Quiz) (test : Test) (items : List Item)
    (assets : AssetMap) :
    (buildManifest quiz test items assets).Within Entity.IsOfManifest := by
  refine (issueFor_within _ _ _ .manifest).bind fun identifier => ?_
  refine (Issuing.Within.mapM _ fun item _ => listItem_within _ _).bind fun listed => ?_
  exact .pure _

theorem listItems_ok {items : List Item} {results : List (Resource × List Resource)}
    (ran : items.mapM (listItem assets) before = .ok results after) :
    before.Lists assets (items.flatMap Item.assets) (results.flatMap Prod.snd) after ∧
      List.Forall₂ (fun item result => item.ListedAs after result.1) items results :=
  Issuing.mapM_linked
    (fun items results before after =>
      before.Lists assets (items.flatMap Item.assets) (results.flatMap Prod.snd) after ∧
      List.Forall₂ (fun item result => item.ListedAs after result.1) items results)
    (fun registry => ⟨.refl registry, .nil⟩)
    (fun item result rest others before middle after one more => by
      obtain ⟨lists, single⟩ := listItem_ok one
      exact ⟨lists.trans more.1, .cons (single.mono more.1.reaches) more.2⟩) ran

/-- The identifier of a manifest is no asset's. -/
theorem issueManifest_lookup {hint : Option String} {identifier : Identifier}
    (issued : issueFor .manifest .manifest hint before = .ok identifier after) (name : String) :
    after.lookup (.asset name) = before.lookup (.asset name) := by
  have alike : before.Reaches (Eq .manifest) after := (issueFor_within _ _ _ rfl).reaches issued
  exact alike.lookup_eq (by simp)

theorem buildManifest_ok {quiz : Quiz} {test : Test} {items : List Item} {manifest : Manifest}
    (ran : buildManifest quiz test items assets before = .ok manifest after) :
    manifest.BuiltFrom before test items assets after := by
  obtain ⟨identifier, first, issued, ran⟩ := Issuing.bind_ok.mp ran
  obtain ⟨listed, last, all, finished⟩ := Issuing.bind_ok.mp ran
  cases finished
  obtain ⟨lists, listedAs⟩ := listItems_ok all
  have same : before.unlisted (items.flatMap Item.assets) =
      first.unlisted (items.flatMap Item.assets) := by
    simp only [Registry.unlisted, issueManifest_lookup issued]
  refine ⟨lists.reaches.lookup_eq_some (issueFor_ok issued), ⟨_, _, rfl, ?_, ?_⟩, lists.bound⟩
  · exact List.forall₂_map_right_iff.mpr listedAs
  · rw [same]
    exact lists.resources

/-- Only the assets of its items are bound for a manifest. -/
theorem buildManifest_unchanged {quiz : Quiz} {test : Test} {items : List Item}
    {manifest : Manifest} {name : String}
    (ran : buildManifest quiz test items assets before = .ok manifest after)
    (absent : name ∉ items.flatMap Item.assets) :
    after.lookup (.asset name) = before.lookup (.asset name) := by
  obtain ⟨identifier, first, issued, ran⟩ := Issuing.bind_ok.mp ran
  obtain ⟨listed, last, all, finished⟩ := Issuing.bind_ok.mp ran
  cases finished
  rw [(listItems_ok all).1.unchanged name absent, issueManifest_lookup issued]

/-- What the items of a manifest list is bound once it is built. -/
theorem buildManifest_unbound_iff {quiz : Quiz} {test : Test} {items : List Item}
    {manifest : Manifest} {name : String}
    (ran : buildManifest quiz test items assets before = .ok manifest after) :
    after.lookup (.asset name) = none ↔
      before.lookup (.asset name) = none ∧ name ∉ items.flatMap Item.assets := by
  by_cases listed : name ∈ items.flatMap Item.assets
  · have bound := (buildManifest_ok ran).listed name listed
    simp [listed, Option.isSome_iff_ne_none.mp bound]
  · rw [buildManifest_unchanged ran listed]
    simp [listed]

/-- The resources of a manifest by their kinds. -/
theorem Manifest.BuiltFrom.resourcesOf {manifest : Manifest} {test : Test} {items : List Item}
    {start : Registry} (built : manifest.BuiltFrom start test items assets registry) :
    List.Forall₂ (Item.ListedAs registry) items (manifest.resourcesOf .item) ∧
      List.Forall₂ (Resource.IsAsset assets registry)
        (start.unlisted (items.flatMap Item.assets)) (manifest.resourcesOf .asset) := by
  obtain ⟨itemResources, assetResources, split, ofItems, embedded⟩ := built.resources
  obtain ⟨itemsEqual, assetsEqual⟩ := resourcesOf_split split ofItems embedded
  rw [itemsEqual, assetsEqual]
  exact ⟨ofItems, embedded⟩

/-- Without strictness, the first asset that is not at hand decides why a manifest is not built. -/
theorem buildManifest_verdict (lenient : registry.strict = false) (quiz : Quiz) (test : Test)
    (items : List Item) (assets : AssetMap) :
    (buildManifest quiz test items assets).verdict registry =
      items.findSome? (Item.problem? assets) := by
  obtain ⟨identifier, first, issued, still⟩ :=
    issueFor_lenient .manifest .manifest (some (quiz.title ++ "_manifest")) registry lenient
  rw [buildManifest, Issuing.verdict_bind_of_ok issued]
  exact (Issuing.verdict_map _ _).trans
    (Issuing.verdict_mapM _ (fun item _ => listItem_within assets item)
      fun _ _ _ reaches => listItem_verdict (reaches.grows.strict.trans still) _ _)

end QuizPackage
