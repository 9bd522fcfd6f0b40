import QuizPackage.Page.Manifest
import QuizPackage.Proofs.Identifier.Registry
import QuizPackage.Proofs.Markup.Reading

/-!
# Manifests can be read back

The markup of a manifest tells its identifier, its title and all of its resources. The metadata of
a resource stands before its file: the interactions in one element and the media type in another,
each left out where there is none. A blank description is written as no description, and of the
generator and its version the page shows only the two together.
-/

namespace QuizPackage

open Markup

variable {format : Format}

theorem recordText_legible {name : ElementName} (bare : name.holdsText = false) (value : String) :
    (recordText name value).Legible :=
  .line (.nested bare _ (.text rfl _ value))

theorem Metadata.block_legible (format : Format) (metadata : Metadata) :
    (metadata.block format).Legible := by
  have description : ∀ block ∈
      (if Text.blank metadata.description then []
        else [recordText .recordDescription metadata.description]), block.Legible := by
    split
    · exact fun block member => absurd member List.not_mem_nil
    · exact List.forall_mem_singleton.mpr (recordText_legible rfl _)
  have general : (Block.element .recordGeneral [] (recordText .recordTitle metadata.title ::
      if Text.blank metadata.description then []
      else [recordText .recordDescription metadata.description])).Legible :=
    .element rfl _ (List.forall_mem_cons.mpr ⟨recordText_legible rfl _, description⟩)
  have lifeCycle : (Block.element .recordLifeCycle []
      [recordText .recordVersion (metadata.generator ++ " " ++ metadata.version)]).Legible :=
    .element rfl _ (List.forall_mem_singleton.mpr (recordText_legible rfl _))
  have record : (Block.element .record [] _).Legible := .element rfl _
    (List.forall_mem_cons.mpr ⟨general, List.forall_mem_singleton.mpr lifeCycle⟩)
  exact .element rfl _ (List.forall_mem_cons.mpr ⟨.text rfl _ _,
    List.forall_mem_cons.mpr ⟨.text rfl _ _, List.forall_mem_singleton.mpr record⟩⟩)

theorem interactionBlocks_legible (format : Format) (interactions : List InteractionKind) :
    ∀ block ∈ interactionBlocks format interactions, block.Legible := by
  cases interactions with
  | nil => exact fun block member => absurd member List.not_mem_nil
  | cons kind rest =>
      refine List.forall_mem_singleton.mpr (.element rfl _ (List.forall_mem_singleton.mpr ?_))
      exact .element rfl _ (List.forall_mem_map.mpr fun kind _ => .text rfl _ _)

theorem mediaTypeBlock_legible (mediaType : String) : (mediaTypeBlock mediaType).Legible := by
  refine .element rfl _ (List.forall_mem_singleton.mpr ?_)
  exact .element rfl _ (List.forall_mem_singleton.mpr (.line (.nested rfl _ (.text rfl _ _))))

theorem Resource.block_legible (format : Format) (resource : Resource) :
    (resource.block format).Legible := by
  have mediaTypes : ∀ block ∈ resource.mediaType.toList.map mediaTypeBlock, block.Legible :=
    List.forall_mem_map.mpr fun mediaType _ => mediaTypeBlock_legible mediaType
  refine .element rfl _ (List.forall_mem_append.mpr ⟨List.forall_mem_append.mpr
    ⟨List.forall_mem_append.mpr ⟨interactionBlocks_legible format _, mediaTypes⟩, ?file⟩, ?needed⟩)
  case file => exact List.forall_mem_singleton.mpr (.empty _ _)
  case needed => exact List.forall_mem_map.mpr fun dependency _ => .empty _ _

theorem Manifest.block_legible (format : Format) (manifest : Manifest) :
    (manifest.block format).Legible := by
  have resources : (Block.element .resources []
      (manifest.resources.map (Resource.block format))).Legible :=
    .element rfl _ (List.forall_mem_map.mpr fun resource _ => resource.block_legible format)
  exact .element rfl _ (List.forall_mem_cons.mpr ⟨manifest.metadata.block_legible format,
    List.forall_mem_cons.mpr ⟨.empty _ _, List.forall_mem_singleton.mpr resources⟩⟩)

theorem ResourceKind.resourceType_injective (format : Format) :
    Function.Injective fun kind : ResourceKind => kind.resourceType format := by
  intro first second
  cases format <;> cases first <;> cases second <;> decide

theorem InteractionKind.element_injective : Function.Injective InteractionKind.element := by
  intro first second
  cases first <;> cases second <;> decide

theorem interactionType_injective (format : Format) :
    Function.Injective fun kind : InteractionKind =>
      Block.text .interactionType [] (kind.element.spelling.in format) := by
  intro first second same
  simp only [Block.text, Block.line.injEq, Inline.element.injEq, List.cons.injEq,
    Inline.text.injEq, true_and, and_true] at same
  exact InteractionKind.element_injective (ElementName.spelling_injective format same)

theorem dependencyBlock_injective :
    Function.Injective fun dependency : Identifier =>
      Block.empty .dependency [⟨.identifierRef, dependency.text⟩] := by
  intro first second same
  simp only [Block.empty, Block.line.injEq, Inline.element.injEq, List.cons.injEq,
    Attribute.mk.injEq, true_and, and_true] at same
  exact Identifier.text_injective same

/-- What stands before the file of a resource tells its interactions and its media type. -/
theorem resourceMetadata_inj {first second : List InteractionKind} {mediaType other : Option String}
    {file otherFile : Inline} {rest more : List Block}
    (same : interactionBlocks format first ++ mediaType.toList.map mediaTypeBlock ++
        .line file :: rest =
      interactionBlocks format second ++ other.toList.map mediaTypeBlock ++
        .line otherFile :: more) :
    first = second ∧ mediaType = other ∧ rest = more := by
  have kinds := (List.map_injective_iff.mpr (interactionType_injective format)).eq_iff
    (a := first) (b := second)
  -- A file takes one line, interactions and media types are elements with different children.
  cases first <;> cases second <;> cases mediaType <;> cases other <;>
    simp_all [interactionBlocks, mediaTypeBlock]

theorem Resource.block_injective (format : Format) :
    Function.Injective (Resource.block format) := by
  intro first second same
  simp only [Resource.block, Block.element.injEq, List.cons.injEq, Attribute.mk.injEq, true_and,
    and_true] at same
  obtain ⟨⟨identifiers, kinds, hrefs⟩, contents⟩ := same
  simp only [List.append_assoc _ [_], List.singleton_append, Block.empty] at contents
  obtain ⟨interactions, mediaTypes, needed⟩ := resourceMetadata_inj contents
  have sameIdentifier := Identifier.text_injective identifiers
  have sameKind := ResourceKind.resourceType_injective format kinds
  have sameDependencies := List.map_injective_iff.mpr dependencyBlock_injective needed
  cases first
  cases second
  simp_all

theorem recordText_inj {name : ElementName} {first second : String}
    (same : recordText name first = recordText name second) : first = second := by
  simp only [recordText, Block.line.injEq, Inline.element.injEq, List.cons.injEq,
    Inline.text.injEq, true_and, and_true] at same
  exact same

/-- All that a page shows of the metadata of two manifests is the same. -/
structure Metadata.Agrees (first second : Metadata) : Prop where
  title : first.title = second.title
  description : first.description = second.description ∨
    Text.blank first.description = true ∧ Text.blank second.description = true
  origin : first.generator ++ " " ++ first.version = second.generator ++ " " ++ second.version

theorem descriptionBlocks_eq_iff {first second : String} :
    (if Text.blank first then [] else [recordText .recordDescription first]) =
        (if Text.blank second then [] else [recordText .recordDescription second]) ↔
      first = second ∨ Text.blank first = true ∧ Text.blank second = true := by
  constructor
  · intro same
    by_cases firstBlank : Text.blank first = true <;> by_cases secondBlank : Text.blank second = true
    · exact .inr ⟨firstBlank, secondBlank⟩
    · simp [firstBlank, secondBlank] at same
    · simp [firstBlank, secondBlank] at same
    · rw [if_neg firstBlank, if_neg secondBlank] at same
      exact .inl (recordText_inj (List.cons.inj same).1)
  · rintro (rfl | ⟨firstBlank, secondBlank⟩)
    · rfl
    · rw [if_pos firstBlank, if_pos secondBlank]

theorem Metadata.block_eq_iff {first second : Metadata} :
    first.block format = second.block format ↔ first.Agrees second := by
  constructor
  · intro same
    simp only [Metadata.block, Block.element.injEq, List.cons.injEq, true_and, and_true] at same
    obtain ⟨⟨titles, descriptions⟩, origins⟩ := same
    exact ⟨recordText_inj titles, descriptionBlocks_eq_iff.mp descriptions, recordText_inj origins⟩
  · rintro ⟨titles, descriptions, origins⟩
    have blocks := descriptionBlocks_eq_iff.mpr descriptions
    simp only [Metadata.block, titles, origins, blocks]

/-- Two manifests agree in their identifier, in all that a page shows of their metadata and in every
field of their resources. -/
structure Manifest.Agrees (first second : Manifest) : Prop where
  identifier : first.identifier = second.identifier
  metadata : first.metadata.Agrees second.metadata
  resources : first.resources = second.resources

theorem Manifest.block_eq_iff {first second : Manifest} :
    first.block format = second.block format ↔ first.Agrees second := by
  constructor
  · intro same
    simp only [Manifest.block, Block.element.injEq, List.cons.injEq, Attribute.mk.injEq, true_and,
      and_true] at same
    obtain ⟨identifiers, metadata, resources⟩ := same
    exact ⟨Identifier.text_injective identifiers, Metadata.block_eq_iff.mp metadata,
      List.map_injective_iff.mpr (Resource.block_injective format) resources⟩
  · rintro ⟨identifiers, metadata, resources⟩
    have blocks : first.metadata.block format = second.metadata.block format :=
      Metadata.block_eq_iff.mpr metadata
    simp only [Manifest.block, identifiers, blocks, resources]

/-- The page of a manifest tells the manifest: pages are the same exactly if their manifests have
the same identifier, title and resources, the same generator and version side by side, and the same
description unless both descriptions are blank. -/
theorem Manifest.page_eq_iff (format : Format) (first second : Manifest) :
    first.page format = second.page format ↔ first.Agrees second := by
  constructor
  · intro same
    have blocks : first.block format = second.block format :=
      renderDocument_inj (first.block_legible format) (second.block_legible format) same
    exact Manifest.block_eq_iff.mp blocks
  · intro agrees
    have blocks : first.block format = second.block format := Manifest.block_eq_iff.mpr agrees
    rw [Manifest.page, Manifest.page, blocks]

end QuizPackage
