import QuizPackage.Package.Integrity
import QuizPackage.Proofs.Package.Planned

namespace QuizPackage

variable {quiz : Quiz} {assets : AssetMap} {planned : Plan} {shuffle : Bool} {registry : Registry}
  {name : Identifier} {item : Item}

theorem Registry.isIssuedFor_of_contains (issued : registry.contains name = true)
    (document : Identifier) : registry.isIssuedFor document name = true := by
  rw [Registry.isIssuedFor, issued, Bool.true_or]

theorem Registry.isIssuedFor_of_owned {document : Identifier}
    (owned : registry.isVariableOf document name = true) :
    registry.isIssuedFor document name = true := by
  rw [Registry.isIssuedFor, owned, Bool.or_true]

/-- Every feedback block of a question is bound to one of its slots. -/
theorem FeedbackParts.BoundIn.mem_inItemOrder {blocks : FeedbackParts Identifier}
    {bodies : FeedbackParts String} {location : Location} {block : Identifier}
    (bound : blocks.BoundIn bodies location registry) (member : some block ∈ blocks.inItemOrder) :
    ∃ slot, registry.lookup (.feedback location slot) = some block := by
  simp only [FeedbackParts.inItemOrder, List.cons_append, List.mem_cons, List.mem_append,
    List.not_mem_nil, or_false] at member
  rcases member with correct | incorrect | choice | general
  · exact ⟨.correct, bound.correct.bound block correct.symm⟩
  · exact ⟨.incorrect, bound.incorrect.bound block incorrect.symm⟩
  · obtain ⟨⟨body, index⟩, _, holds⟩ := exists_of_forall₂_right bound.choices choice
    exact ⟨.choice index, holds.bound block rfl⟩
  · exact ⟨.general, bound.general.bound block general.symm⟩

theorem ItemIdentifiers.BoundIn.issued {identifiers : ItemIdentifiers} {single : Question}
    {location : Location} (bound : identifiers.BoundIn single location registry)
    (sound : registry.Sound) (shuffle : Bool)
    (member : name ∈
      (single.item identifiers (single.synthesis identifiers) location shuffle).references) :
    registry.isIssuedFor identifiers.item name = true := by
  rw [Item.references, Text.mem_ascending, Question.item_variables,
    Question.item_choices bound.choices_length, List.mem_append, List.mem_append] at member
  rcases member with (member | choice) | shown
  · rcases List.mem_cons.mp member with rfl | owned
    · exact Registry.isIssuedFor_of_contains (sound.lookup_issued bound.item) _
    · exact Registry.isIssuedFor_of_owned (bound.owned name owned)
  · obtain ⟨index, _, known⟩ := exists_of_forall₂_right bound.choices choice
    exact Registry.isIssuedFor_of_contains (sound.lookup_issued known) _
  · obtain ⟨block, held, inside⟩ := List.mem_flatMap.mp shown
    obtain ⟨outcome, placed⟩ := Question.mem_feedbackBlocks held
    simp only [List.mem_cons, List.not_mem_nil, or_false] at inside
    rcases inside with rfl | rfl
    · obtain ⟨slot, known⟩ := bound.blocks.mem_inItemOrder placed
      exact Registry.isIssuedFor_of_contains (sound.lookup_issued known) _
    · refine Registry.isIssuedFor_of_owned (bound.owned _ ?_)
      simp [ItemIdentifiers.variables, ← outcome]

/-- What a built item refers to was issued, for the package or as a variable of the item. -/
theorem Piece.BuiltAs.issued {piece : Piece} (built : piece.BuiltAs registry shuffle item)
    (sound : registry.Sound) (member : name ∈ item.references) :
    registry.isIssuedFor item.identifier name = true := by
  cases built with
  | question bound => exact bound.issued sound shuffle member
  | text bound owned =>
      rw [Item.references, Text.mem_ascending] at member
      simp only [TextRegion.item, Item.variables, Declarations.identifiers, scoreOutcome,
        Item.choices, Item.interaction?, Option.toList_none, List.map_nil, List.nil_append,
        List.map_cons, List.flatMap_nil, List.append_nil, List.mem_cons, List.not_mem_nil,
        or_false] at member
      rcases member with rfl | rfl
      · exact Registry.isIssuedFor_of_contains (sound.lookup_issued bound) _
      · exact Registry.isIssuedFor_of_owned owned

theorem Test.BuiltFrom.group_issued {test : Test} (built : test.BuiltFrom quiz registry)
    {pool : GroupSection} (member : pool ∈ test.groups) :
    ∃ index, registry.lookup (.group index) = some pool.identifier := by
  obtain ⟨part, listed, held⟩ := List.mem_filterMap.mp member
  obtain ⟨⟨entry, index⟩, _, made⟩ := exists_of_forall₂_right built.parts listed
  cases made with
  | question bound => cases held
  | text bound => cases held
  | group selectable bound members =>
      cases held
      exact ⟨index, bound⟩

theorem Plan.BuiltFrom.item_issued (built : planned.BuiltFrom quiz assets shuffle)
    (member : item ∈ planned.items) :
    planned.registry.contains item.identifier = true := by
  obtain ⟨piece, _, single⟩ := exists_of_forall₂_right built.items member
  exact built.sound.lookup_issued single.lookup

theorem Plan.BuiltFrom.mem_test_items (built : planned.BuiltFrom quiz assets shuffle)
    (member : name ∈ planned.test.items.map ItemReference.identifier) :
    ∃ item ∈ planned.items, item.identifier = name := by
  rw [built.test_items, List.map_map] at member
  exact List.mem_map.mp member

theorem Plan.BuiltFrom.test_issued (built : planned.BuiltFrom quiz assets shuffle)
    (member : name ∈ planned.test.references) :
    planned.registry.isIssuedFor planned.test.identifier name = true := by
  have sound := built.sound
  rw [Test.references, Text.mem_ascending, List.mem_append, List.mem_append] at member
  rcases member with (member | grouped) | referred
  · simp only [List.mem_cons, List.not_mem_nil, or_false] at member
    rcases member with rfl | rfl | rfl | rfl
    · exact Registry.isIssuedFor_of_contains (sound.lookup_issued built.test.identifier) _
    · exact Registry.isIssuedFor_of_owned built.test.score
    · exact Registry.isIssuedFor_of_contains (sound.lookup_issued built.test.part) _
    · exact Registry.isIssuedFor_of_contains (sound.lookup_issued built.test.rootSection) _
  · obtain ⟨pool, held, rfl⟩ := List.mem_map.mp grouped
    obtain ⟨index, bound⟩ := built.test.group_issued held
    exact Registry.isIssuedFor_of_contains (sound.lookup_issued bound) _
  · obtain ⟨item, listed, rfl⟩ := built.mem_test_items referred
    exact Registry.isIssuedFor_of_contains (built.item_issued listed) _

theorem Plan.BuiltFrom.resource_issued (built : planned.BuiltFrom quiz assets shuffle)
    {resource : Resource} (listed : resource ∈ planned.manifest.resources)
    (member : name ∈ resource.identifier :: resource.dependencies) :
    planned.registry.contains name = true := by
  have sound := built.sound
  obtain ⟨itemResources, assetResources, split, items, embedded⟩ := built.resources
  rw [split, List.cons_append, List.mem_cons, List.mem_append] at listed
  rcases listed with rfl | single | single
  · rcases List.mem_cons.mp member with rfl | needed
    · exact sound.lookup_issued built.test.identifier
    · obtain ⟨item, inside, rfl⟩ := built.mem_test_items needed
      exact built.item_issued inside
  · obtain ⟨item, inside, dependencies, bound, rfl⟩ := exists_of_forall₂_right items single
    rcases List.mem_cons.mp member with rfl | needed
    · exact built.item_issued inside
    · obtain ⟨asset, _, known⟩ := exists_of_forall₂_right bound needed
      exact sound.lookup_issued known
  · obtain ⟨asset, _, identifier, _, bound, _, rfl⟩ := exists_of_forall₂_right embedded single
    cases List.mem_singleton.mp member
    exact sound.lookup_issued bound

theorem Plan.BuiltFrom.manifest_issued (built : planned.BuiltFrom quiz assets shuffle)
    (member : name ∈ planned.manifest.references) :
    planned.registry.isIssuedFor planned.manifest.identifier name = true := by
  rw [Manifest.references, Text.mem_ascending] at member
  rcases List.mem_cons.mp member with rfl | member
  · exact Registry.isIssuedFor_of_contains (built.sound.lookup_issued built.manifest) _
  · obtain ⟨resource, listed, inside⟩ := List.mem_flatMap.mp member
    exact Registry.isIssuedFor_of_contains (built.resource_issued listed inside) _

end QuizPackage
