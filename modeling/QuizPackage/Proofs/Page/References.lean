import QuizPackage.Page.Manifest
import QuizPackage.Page.Test
import QuizPackage.Proofs.Markup.Rendering
import QuizPackage.Proofs.Text.Ascending

namespace QuizPackage

open Markup

variable {format : Format} {name : Identifier} {item : Item} {test : Test} {manifest : Manifest}

theorem ResponseDeclaration.block_shows (declaration : ResponseDeclaration) :
    declaration.block.Shows declaration.identifier := by
  unfold ResponseDeclaration.block
  dsimp only
  split
  · exact .of_line .identifier (by simp [variableAttributes])
  · exact .of_attribute .identifier (by simp [variableAttributes])

theorem OutcomeDeclaration.block_shows (format : Format) (declaration : OutcomeDeclaration) :
    (declaration.block format).Shows declaration.identifier := by
  unfold OutcomeDeclaration.block
  dsimp only
  split
  · exact .of_line .identifier (by simp [variableAttributes])
  · exact .of_attribute .identifier (by simp [variableAttributes])

theorem Interaction.blocks_show {interaction : Interaction} {choice : SimpleChoice}
    (member : choice ∈ interaction.choices) (prompt : String) :
    ∃ block ∈ interaction.blocks prompt, block.Shows choice.identifier := by
  cases interaction with
  | choice response shuffle maxChoices choices =>
      have shown : choice.block.Shows choice.identifier := .of_line .identifier List.mem_cons_self
      refine ⟨_, List.mem_cons_self, .of_child ?_ shown⟩
      exact List.mem_cons_of_mem _ (List.mem_map_of_mem member)
  | textEntry response expectedLength => cases member
  | extendedText response expectedLines => cases member
  | upload response => cases member

theorem FeedbackBlock.block_shows (format : Format) (block : FeedbackBlock) :
    (block.block format).Shows block.identifier ∧ (block.block format).Shows block.outcome := by
  cases format with
  | qti21 =>
      exact ⟨.of_line .identifier (by simp), .of_line .outcomeIdentifier (by simp)⟩
  | qti30 =>
      exact ⟨.of_attribute .identifier (by simp), .of_attribute .outcomeIdentifier (by simp)⟩

theorem Item.block_shows_variable (member : name ∈ item.variables) :
    (item.block format).Shows name := by
  unfold Item.block
  rcases List.mem_append.mp member with member | member
  · obtain ⟨declaration, declared, rfl⟩ := List.mem_map.mp member
    refine .of_child ?_ declaration.block_shows
    simp only [List.mem_append]
    exact .inl (.inl (.inl (.inl (List.mem_map_of_mem declared))))
  · obtain ⟨declaration, declared, rfl⟩ := List.mem_map.mp member
    refine .of_child ?_ (declaration.block_shows format)
    simp only [List.mem_append]
    exact .inl (.inl (.inl (.inr (List.mem_map_of_mem declared))))

theorem Item.block_shows_choice {choice : SimpleChoice} (member : choice ∈ item.choices) :
    (item.block format).Shows choice.identifier := by
  unfold Item.choices Item.interaction? at member
  cases body : item.body with
  | text title markup =>
      rw [body] at member
      cases member
  | question prompt interaction =>
      rw [body] at member
      simp only [Option.toList_some, List.flatMap_singleton] at member
      obtain ⟨block, inside, shown⟩ := Interaction.blocks_show member prompt
      have within : (Block.element .itemBody [] item.body.blocks).Shows choice.identifier :=
        .of_child (body ▸ inside) shown
      unfold Item.block
      refine .of_child ?_ within
      simp

/-- Every identifier that an item refers to is shown in its page. -/
theorem Item.block_shows (format : Format) (member : name ∈ item.references) :
    (item.block format).Shows name := by
  rw [Item.references, Text.mem_ascending, List.mem_append, List.mem_append] at member
  rcases member with (member | member) | member
  · rcases List.mem_cons.mp member with rfl | member
    · exact .of_attribute .identifier (by simp)
    · exact Item.block_shows_variable member
  · obtain ⟨choice, offered, rfl⟩ := List.mem_map.mp member
    exact Item.block_shows_choice offered
  · obtain ⟨block, held, inside⟩ := List.mem_flatMap.mp member
    have shown : block.block format ∈ item.feedback.map (FeedbackBlock.block format) :=
      List.mem_map_of_mem held
    simp only [List.mem_cons, List.not_mem_nil, or_false] at inside
    rcases inside with rfl | rfl
    · exact .of_child (List.mem_append_right _ shown) (block.block_shows format).1
    · exact .of_child (List.mem_append_right _ shown) (block.block_shows format).2

theorem ItemReference.block_shows (reference : ItemReference) :
    reference.block.Shows reference.identifier :=
  .of_line .identifier List.mem_cons_self

theorem SectionPart.block_shows_item {part : SectionPart} {reference : ItemReference}
    (member : reference ∈ part.items) : part.block.Shows reference.identifier := by
  cases part with
  | item single =>
      cases List.mem_singleton.mp member
      exact reference.block_shows
  | group pool =>
      refine .of_child ?_ reference.block_shows
      exact List.mem_cons_of_mem _ (List.mem_cons_of_mem _ (List.mem_map_of_mem member))

theorem SectionPart.block_shows_group {part : SectionPart} {pool : GroupSection}
    (member : pool ∈ part.group?) : part.block.Shows pool.identifier := by
  cases part with
  | item single => cases member
  | group other =>
      cases member
      exact .of_attribute .identifier List.mem_cons_self

theorem Test.block_shows_part {part : SectionPart} (member : part ∈ test.parts)
    (shown : part.block.Shows name) : (test.block format).Shows name := by
  refine .of_child (List.mem_cons_of_mem _ List.mem_cons_self) ?_
  refine .of_child (List.mem_cons_of_mem _ List.mem_cons_self) ?_
  exact .of_child (List.mem_map_of_mem member) shown

/-- Every identifier that a test refers to is shown in its page. -/
theorem Test.block_shows (format : Format) (member : name ∈ test.references) :
    (test.block format).Shows name := by
  rw [Test.references, Text.mem_ascending, List.mem_append, List.mem_append] at member
  rcases member with (member | member) | member
  · simp only [List.mem_cons, List.not_mem_nil, or_false] at member
    rcases member with rfl | rfl | rfl | rfl
    · exact .of_attribute .identifier (by simp)
    · exact .of_child List.mem_cons_self (.of_attribute .identifier List.mem_cons_self)
    · exact .of_child (List.mem_cons_of_mem _ List.mem_cons_self)
        (.of_attribute .identifier List.mem_cons_self)
    · refine .of_child (List.mem_cons_of_mem _ List.mem_cons_self) ?_
      exact .of_child (List.mem_cons_of_mem _ List.mem_cons_self)
        (.of_attribute .identifier List.mem_cons_self)
  · obtain ⟨pool, grouped, rfl⟩ := List.mem_map.mp member
    obtain ⟨part, listed, held⟩ := List.mem_filterMap.mp grouped
    exact Test.block_shows_part listed (SectionPart.block_shows_group held)
  · obtain ⟨reference, referred, rfl⟩ := List.mem_map.mp member
    obtain ⟨part, listed, held⟩ := List.mem_flatMap.mp referred
    exact Test.block_shows_part listed (SectionPart.block_shows_item held)

theorem Resource.block_shows {resource : Resource}
    (member : name ∈ resource.identifier :: resource.dependencies) :
    (resource.block format).Shows name := by
  rcases List.mem_cons.mp member with rfl | member
  · exact .of_attribute .identifier List.mem_cons_self
  · refine .of_child (List.mem_append_right _ (List.mem_map_of_mem member)) ?_
    exact .of_line .identifierRef List.mem_cons_self

/-- Every identifier that a manifest refers to is shown in its page. -/
theorem Manifest.block_shows (format : Format) (member : name ∈ manifest.references) :
    (manifest.block format).Shows name := by
  rw [Manifest.references, Text.mem_ascending] at member
  rcases List.mem_cons.mp member with rfl | member
  · exact .of_attribute .identifier List.mem_cons_self
  · obtain ⟨resource, listed, inside⟩ := List.mem_flatMap.mp member
    have shown : (Block.element .resources []
        (manifest.resources.map (Resource.block format))).Shows name :=
      .of_child (List.mem_map_of_mem listed) (Resource.block_shows inside)
    exact .of_child (by simp) shown

end QuizPackage
