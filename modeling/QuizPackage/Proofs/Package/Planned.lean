import QuizPackage.Proofs.Manifest.Building
import QuizPackage.Proofs.Test.Building

namespace QuizPackage

/-- What holds of a plan of a quiz. -/
structure Plan.BuiltFrom (planned : Plan) (quiz : Quiz) (assets : AssetMap) (shuffle : Bool) :
    Prop where
  reachable : planned.registry.Reachable
  items : List.Forall₂ (Piece.BuiltAs planned.registry shuffle) quiz.pieces planned.items
  test : planned.test.BuiltFrom quiz planned.registry
  manifest : planned.registry.lookup .manifest = some planned.manifest.identifier
  resources : ∃ itemResources assetResources,
    planned.manifest.resources = listTest planned.test :: itemResources ++ assetResources ∧
    List.Forall₂ (Item.ListedAs planned.registry) planned.items itemResources ∧
    List.Forall₂ (Resource.IsAsset assets planned.registry)
      (planned.items.flatMap Item.assets).eraseDups assetResources

variable {quiz : Quiz} {assets : AssetMap} {options : Options} {planned : Plan} {shuffle : Bool}

theorem Entity.not_isOfItem_asset (name : String) : ¬(Entity.asset name).IsOfItem := by
  rintro ⟨piece, owned⟩
  cases piece with
  | question location single => cases owned
  | text entry region => cases owned

theorem Entity.not_isOfTest_asset (name : String) : ¬(Entity.asset name).IsOfTest := by
  rintro ⟨⟩

theorem Registry.unlisted_eq {registry : Registry}
    (unbound : ∀ name, registry.lookup (.asset name) = none) (names : List String) :
    registry.unlisted names = names.eraseDups := by
  simp [Registry.unlisted, unbound]

/-- A plan that succeeds was made in three stages, each with the registry that the one before it
left. -/
theorem plan_stages (ran : plan options quiz assets = .ok planned) :
    ∃ first second,
      quiz.pieces.mapM (buildPiece options.shuffle)
        (Registry.empty options.suffix options.strict) = .ok planned.items first ∧
      buildTest quiz first = .ok planned.test second ∧
      buildManifest quiz planned.test planned.items assets second =
        .ok planned.manifest planned.registry := by
  unfold plan at ran
  cases built : buildAll quiz assets options.shuffle
      (Registry.empty options.suffix options.strict) with
  | error problem registry =>
      rw [built] at ran
      cases ran
  | ok documents registry =>
      rw [built] at ran
      cases ran
      obtain ⟨items, first, made, more⟩ := Issuing.bind_ok.mp built
      obtain ⟨test, second, tested, rest⟩ := Issuing.bind_ok.mp more
      obtain ⟨manifest, last, listed, finished⟩ := Issuing.bind_ok.mp rest
      cases finished
      exact ⟨first, second, made, tested, listed⟩

/-- A plan that succeeds holds what was built for the quiz. -/
theorem plan_ok (ran : plan options quiz assets = .ok planned) :
    planned.BuiltFrom quiz assets options.shuffle := by
  obtain ⟨first, second, made, tested, listed⟩ := plan_stages ran
  have toFirst := (buildItems_within quiz options.shuffle).reaches made
  have toSecond := (buildTest_within quiz).reaches tested
  have toLast := (buildManifest_within quiz planned.test planned.items assets).reaches listed
  -- No asset is bound before the manifest, so the manifest lists all of them.
  have unbound : ∀ name, second.lookup (.asset name) = none := by
    intro name
    rw [toSecond.lookup_eq (Entity.not_isOfTest_asset name),
      toFirst.lookup_eq (Entity.not_isOfItem_asset name)]
    rfl
  have manifestBuilt := buildManifest_ok listed
  have resources := manifestBuilt.resources
  rw [Registry.unlisted_eq unbound] at resources
  exact {
    reachable := (((Registry.empty_reachable options.suffix options.strict).reaches
      toFirst).reaches toSecond).reaches toLast
    items := (buildItems_ok made).imp fun _ _ single =>
      (single.mono toSecond).mono toLast
    test := (buildTest_ok tested).mono toLast
    manifest := manifestBuilt.identifier
    resources := resources }

/-- What is seen of a plan once it is computed holds of the plan that is made. -/
theorem plan_observed {α : Type} (observe : Plan → α) {value : α}
    (computed : (plan options quiz assets).toOption.map observe = some value) :
    ∃ planned, plan options quiz assets = .ok planned ∧ observe planned = value := by
  cases made : plan options quiz assets with
  | error problem =>
      rw [made] at computed
      cases computed
  | ok planned =>
      rw [made] at computed
      exact ⟨planned, rfl, Option.some.inj computed⟩

/-- The top-level entry that an entity comes from, if it comes from one. -/
def Entity.entry? (entity : Entity) : Option Nat :=
  entity.location?.map Location.entry

theorem Entry.entry?_of_mem {entry : Entry} {index : Nat} {piece : Piece}
    (member : piece ∈ entry.pieces index) : piece.entity.entry? = some index := by
  cases entry with
  | question single =>
      cases List.mem_singleton.mp member
      rfl
  | text region =>
      cases List.mem_singleton.mp member
      rfl
  | group pool =>
      obtain ⟨⟨single, place⟩, _, rfl⟩ := List.mem_map.mp member
      rfl

theorem Entry.entities_nodup (entry : Entry) (index : Nat) :
    ((entry.pieces index).map Piece.entity).Nodup := by
  cases entry with
  | question single => exact List.nodup_singleton _
  | text region => exact List.nodup_singleton _
  | group pool =>
      rw [Entry.group_pieces]
      refine List.Nodup.map (fun first second equal => ?_) List.nodup_range
      injection equal with equal
      injection equal with _ equal
      exact Option.some.inj equal

theorem Quiz.entities_nodup (quiz : Quiz) : (quiz.pieces.map Piece.entity).Nodup := by
  rw [Quiz.pieces, List.map_flatMap, List.nodup_flatMap]
  refine ⟨fun indexed _ => indexed.1.entities_nodup indexed.2, ?_⟩
  have indices : (quiz.entries.zipIdx.map Prod.snd).Nodup := by
    rw [List.zipIdx_map_snd]
    exact List.nodup_range'
  rw [List.Nodup, List.pairwise_map] at indices
  refine indices.imp fun apart => ?_
  change List.Disjoint _ _
  rw [List.disjoint_iff_ne]
  rintro first inFirst second inSecond rfl
  obtain ⟨left, leftMember, equal⟩ := List.mem_map.mp inFirst
  obtain ⟨right, rightMember, same⟩ := List.mem_map.mp inSecond
  have leftIndex := Entry.entry?_of_mem leftMember
  have rightIndex := Entry.entry?_of_mem rightMember
  rw [equal] at leftIndex
  rw [same, leftIndex] at rightIndex
  exact apart (Option.some.inj rightIndex)

theorem Plan.BuiltFrom.sound (built : planned.BuiltFrom quiz assets shuffle) :
    planned.registry.Sound :=
  built.reachable.sound

theorem Plan.BuiltFrom.lookups (built : planned.BuiltFrom quiz assets shuffle) :
    List.Forall₂ (fun entity identifier => planned.registry.lookup entity = some identifier)
      (quiz.pieces.map Piece.entity) (planned.items.map Item.identifier) :=
  List.forall₂_map_left_iff.mpr (List.forall₂_map_right_iff.mpr
    (built.items.imp fun _ _ single => single.lookup))

/-- No two items of a plan have the same identifier. -/
theorem Plan.BuiltFrom.items_nodup (built : planned.BuiltFrom quiz assets shuffle) :
    (planned.items.map Item.identifier).Nodup :=
  built.sound.lookups_nodup Function.injective_id built.lookups quiz.entities_nodup

theorem Plan.BuiltFrom.test_items (built : planned.BuiltFrom quiz assets shuffle) :
    planned.test.items = planned.items.map fun item => .to item.identifier := by
  have items := built.items
  have references := built.test.items
  generalize planned.test.items = listed at references ⊢
  generalize planned.items = all at items ⊢
  generalize quiz.pieces = pieces at items references
  induction items generalizing listed with
  | nil =>
      cases references
      rfl
  | cons single _ ih =>
      cases references with
      | cons refers rest =>
          obtain ⟨identifier, bound, rfl⟩ := refers
          rw [single.lookup] at bound
          cases bound
          rw [List.map_cons, ih _ rest]

end QuizPackage
