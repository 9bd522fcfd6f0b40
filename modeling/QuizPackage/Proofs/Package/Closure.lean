import Mathlib.Data.List.Count
import QuizPackage.Proofs.Package.Accounting

/-!
# Closed manifests

A manifest that is built lists the assets of its items that its registry had not bound before, each
once. So it lists all that its items depend on exactly if none of their assets was bound before, by
an earlier manifest or by a call of its own.
-/

namespace QuizPackage

/-- Every asset that some item lists has one resource, and the resources of items depend on nothing
but resources of the same manifest. -/
structure Manifest.Closed (manifest : Manifest) (items : List Item) : Prop where
  once : ∀ name ∈ items.flatMap Item.assets,
    ((manifest.resourcesOf .asset).map Resource.href).count (assetPath name) = 1
  resolved : ∀ resource ∈ manifest.resourcesOf .item, ∀ dependency ∈ resource.dependencies,
    ∃ needed ∈ manifest.resources, needed.identifier = dependency

instance (manifest : Manifest) (items : List Item) : Decidable (manifest.Closed items) :=
  decidable_of_iff
    ((∀ name ∈ items.flatMap Item.assets,
      ((manifest.resourcesOf .asset).map Resource.href).count (assetPath name) = 1) ∧
    ∀ resource ∈ manifest.resourcesOf .item, ∀ dependency ∈ resource.dependencies,
      ∃ needed ∈ manifest.resources, needed.identifier = dependency)
    ⟨fun both => ⟨both.1, both.2⟩, fun closed => ⟨closed.once, closed.resolved⟩⟩

/-- A resource depends on the assets of its item as they are bound, and there is a resource for
those that were not bound at the start. -/
def Resource.NeedsUnbound (manifest : Manifest) (start finish : Registry) (item : Item)
    (resource : Resource) : Prop :=
  resource.identifier = item.identifier ∧
    List.Forall₂ (fun name dependency => finish.lookup (.asset name) = some dependency ∧
      ((∃ needed ∈ manifest.resourcesOf .asset, needed.identifier = dependency) ↔
        start.lookup (.asset name) = none)) item.assets resource.dependencies

/-- How a manifest lists the assets of items, by what its registry had bound at the start. -/
structure Manifest.ListsUnbound (manifest : Manifest) (items : List Item)
    (start finish : Registry) : Prop where
  counted : ∀ name ∈ items.flatMap Item.assets,
    ((manifest.resourcesOf .asset).map Resource.href).count (assetPath name) =
      if start.lookup (.asset name) = none then 1 else 0
  embedded : ∀ resource ∈ manifest.resourcesOf .asset, ∃ name ∈ items.flatMap Item.assets,
    start.lookup (.asset name) = none ∧
      finish.lookup (.asset name) = some resource.identifier ∧ resource.href = assetPath name
  needed : List.Forall₂ (Resource.NeedsUnbound manifest start finish) items
    (manifest.resourcesOf .item)

variable {start registry before after : Registry} {planned : Plan} {shuffle : Bool}
  {manifest : Manifest} {quiz : Quiz} {test : Test} {items : List Item} {assets : AssetMap}
  {names : List String} {name : String}

theorem Registry.count_unlisted (member : name ∈ names) :
    (registry.unlisted names).count name =
      if registry.lookup (.asset name) = none then 1 else 0 := by
  have distinct : (registry.unlisted names).Nodup := nodup_eraseDups _
  rw [distinct.count]
  simp only [Registry.mem_unlisted, member, true_and]

/-- The asset of a dependency has a resource exactly if it was not bound at the start. -/
theorem Manifest.BuiltFrom.dependency_listed_iff
    (built : manifest.BuiltFrom start test items assets registry) (sound : registry.Sound)
    {dependency : Identifier} (member : name ∈ items.flatMap Item.assets)
    (bound : registry.lookup (.asset name) = some dependency) :
    (∃ needed ∈ manifest.resourcesOf .asset, needed.identifier = dependency) ↔
      start.lookup (.asset name) = none := by
  constructor
  · rintro ⟨needed, listed, rfl⟩
    obtain ⟨other, unlisted, identifier, asset, known, _, rfl⟩ :=
      exists_of_forall₂_right built.resourcesOf.2 listed
    obtain rfl := Entity.asset.inj (sound.lookup_injective bound known)
    exact (Registry.mem_unlisted.mp unlisted).2
  · intro unbound
    obtain ⟨needed, listed, identifier, asset, known, _, rfl⟩ :=
      exists_of_forall₂_left built.resourcesOf.2 (Registry.mem_unlisted.mpr ⟨member, unbound⟩)
    exact ⟨_, listed, Option.some.inj (known.symm.trans bound)⟩

theorem Manifest.BuiltFrom.listsUnbound
    (built : manifest.BuiltFrom start test items assets registry) (sound : registry.Sound) :
    manifest.ListsUnbound items start registry where
  counted := by
    intro name member
    rw [assetResources_hrefs built.resourcesOf.2,
      List.count_map_of_injective _ _ assetPath_injective]
    exact Registry.count_unlisted member
  embedded := by
    intro resource listed
    obtain ⟨name, unlisted, identifier, asset, bound, _, rfl⟩ :=
      exists_of_forall₂_right built.resourcesOf.2 listed
    obtain ⟨member, unbound⟩ := Registry.mem_unlisted.mp unlisted
    exact ⟨name, member, unbound, bound, rfl⟩
  needed := by
    refine ((List.forall₂_and_left _ _).mpr
      ⟨fun item (inside : item ∈ items) => inside, built.resourcesOf.1⟩).imp ?_
    rintro item resource ⟨inside, dependencies, bound, rfl⟩
    refine ⟨rfl, ((List.forall₂_and_left _ _).mpr
      ⟨fun name (used : name ∈ item.assets) => used, bound⟩).imp ?_⟩
    rintro name dependency ⟨used, known⟩
    exact ⟨known, built.dependency_listed_iff sound
      (List.mem_flatMap.mpr ⟨item, inside, used⟩) known⟩

theorem Manifest.ListsUnbound.closed_iff (lists : manifest.ListsUnbound items start registry) :
    manifest.Closed items ↔
      ∀ name ∈ items.flatMap Item.assets, start.lookup (.asset name) = none := by
  constructor
  · intro closed name member
    by_contra bound
    have counted := lists.counted name member
    rw [closed.once name member, if_neg bound] at counted
    cases counted
  · intro unbound
    refine ⟨fun name member => ?_, fun resource listed dependency needs => ?_⟩
    · rw [lists.counted name member, if_pos (unbound name member)]
    · obtain ⟨item, inside, _, needed⟩ := exists_of_forall₂_right lists.needed listed
      obtain ⟨name, used, _, found⟩ := exists_of_forall₂_right needed needs
      obtain ⟨other, embedded, same⟩ :=
        found.mpr (unbound name (List.mem_flatMap.mpr ⟨item, inside, used⟩))
      exact ⟨other, List.mem_of_mem_filter embedded, same⟩

theorem Plan.BuiltFrom.manifestBuilt (built : planned.BuiltFrom quiz assets shuffle)
    (suffix : String) (strict : Bool) :
    planned.manifest.BuiltFrom (Registry.empty suffix strict) planned.test planned.items assets
      planned.registry where
  identifier := built.manifest
  resources := by
    rw [Registry.unlisted_eq fun _ => rfl]
    exact built.resources
  listed := by
    obtain ⟨_, assetResources, _, _, embedded⟩ := built.resources
    intro name member
    obtain ⟨_, _, identifier, _, bound, _⟩ :=
      exists_of_forall₂_left embedded (List.mem_eraseDups.mpr member)
    rw [bound, Option.isSome_some]

/-- The manifest of a plan is closed, since nothing binds an asset before it. -/
theorem Plan.BuiltFrom.closed (built : planned.BuiltFrom quiz assets shuffle) :
    planned.manifest.Closed planned.items :=
  ((built.manifestBuilt "" false).listsUnbound built.sound).closed_iff.mpr fun _ _ => rfl

/-- A manifest built from any registry that calls lead to lists the assets of its items that are
unbound at the start, each once, and nothing else. So it is closed exactly if all of them are, which
they are not once a manifest with some of them has been built. -/
theorem manifest_is_closed_iff_assets_unbound (reachable : before.Reachable)
    (ran : buildManifest quiz test items assets before = .ok manifest after) :
    manifest.ListsUnbound items before after ∧
    (manifest.Closed items ↔
      ∀ name ∈ items.flatMap Item.assets, before.lookup (.asset name) = none) ∧
    ∀ name, after.lookup (.asset name) = none ↔
      before.lookup (.asset name) = none ∧ name ∉ items.flatMap Item.assets := by
  have reaches := (buildManifest_within quiz test items assets).reaches ran
  have lists := (buildManifest_ok ran).listsUnbound (reachable.reaches reaches).sound
  exact ⟨lists, lists.closed_iff, fun name => buildManifest_unbound_iff ran⟩

/-- The manifest that is built of a plan once more. -/
def Plan.manifestAgain? (planned : Plan) (quiz : Quiz) (assets : AssetMap) : Option Manifest :=
  match buildManifest quiz planned.test planned.items assets planned.registry with
  | .ok second _ => some second
  | .error _ _ => none

theorem Plan.manifestAgain?_eq_some {second : Manifest}
    (again : planned.manifestAgain? quiz assets = some second) :
    ∃ after, buildManifest quiz planned.test planned.items assets planned.registry =
      .ok second after := by
  unfold Plan.manifestAgain? at again
  split at again
  · rename_i same after ran
    cases again
    exact ⟨after, ran⟩
  · cases again

/-- Both items of the voyage need the chart, and its second manifest lists only the test and these
items. -/
theorem voyage_listed_twice :
    ∃ planned second, plan ⟨false, "", false⟩ voyage charts = .ok planned ∧
      planned.manifestAgain? voyage charts = some second ∧
      planned.items.flatMap Item.assets = ["chart.png", "chart.png"] ∧
      second.resources.map (fun resource => (resource.identifier.text,
        resource.dependencies.map Identifier.text)) =
        [("voyage", ["light", "text"]), ("light", ["chart.png"]), ("text", ["chart.png"])] ∧
      ¬second.Closed planned.items := by
  have computed : (plan ⟨false, "", false⟩ voyage charts).toOption.map (fun planned =>
      (planned.items.flatMap Item.assets, (planned.manifestAgain? voyage charts).map fun second =>
        (second.resources.map fun resource =>
          (resource.identifier.text, resource.dependencies.map Identifier.text),
        decide (second.Closed planned.items)))) =
      some (["chart.png", "chart.png"], some
        ([("voyage", ["light", "text"]), ("light", ["chart.png"]), ("text", ["chart.png"])],
        false)) := by
    decide +kernel
  obtain ⟨planned, made, observed⟩ := plan_observed _ computed
  obtain ⟨used, again⟩ := Prod.mk.inj observed
  obtain ⟨second, again, seen⟩ := Option.map_eq_some_iff.mp again
  obtain ⟨listed, isOpen⟩ := Prod.mk.inj seen
  exact ⟨planned, second, made, again, used, listed, of_decide_eq_false isOpen⟩

/-- On the registry of a plan, no asset of its items is unbound. -/
theorem voyage_second_manifest_lists_no_chart :
    ∃ planned second after, plan ⟨false, "", false⟩ voyage charts = .ok planned ∧
      planned.registry.Reachable ∧
      buildManifest voyage planned.test planned.items charts planned.registry =
        .ok second after ∧
      ((second.resourcesOf .asset).map Resource.href).count "assets/chart.png" = 0 := by
  obtain ⟨planned, second, made, again, used, _⟩ := voyage_listed_twice
  obtain ⟨after, ran⟩ := Plan.manifestAgain?_eq_some again
  have built := plan_ok made
  obtain ⟨lists, _⟩ := manifest_is_closed_iff_assets_unbound built.reachable ran
  have member : "chart.png" ∈ planned.items.flatMap Item.assets := by
    rw [used]
    exact List.mem_cons_self
  have bound := (built.manifestBuilt "" false).listed "chart.png" member
  have counted := lists.counted "chart.png" member
  rw [if_neg (Option.isSome_iff_ne_none.mp bound)] at counted
  exact ⟨planned, second, after, made, built.reachable, ran, counted⟩

theorem voyage_second_manifest_is_open :
    ∃ planned second after, plan ⟨false, "", false⟩ voyage charts = .ok planned ∧
      planned.registry.Reachable ∧ planned.manifest.Closed planned.items ∧
      buildManifest voyage planned.test planned.items charts planned.registry =
        .ok second after ∧
      second.resources.map (fun resource => (resource.identifier.text,
        resource.dependencies.map Identifier.text)) =
        [("voyage", ["light", "text"]), ("light", ["chart.png"]), ("text", ["chart.png"])] ∧
      ¬second.Closed planned.items := by
  obtain ⟨planned, second, made, again, _, listed, isOpen⟩ := voyage_listed_twice
  obtain ⟨after, ran⟩ := Plan.manifestAgain?_eq_some again
  have built := plan_ok made
  exact ⟨planned, second, after, made, built.reachable, built.closed, ran, listed, isOpen⟩

end QuizPackage
