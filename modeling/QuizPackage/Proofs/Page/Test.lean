import QuizPackage.Page.Test
import QuizPackage.Proofs.Identifier.Registry
import QuizPackage.Proofs.Markup.Reading

namespace QuizPackage

open Markup

theorem ItemReference.block_legible (reference : ItemReference) : reference.block.Legible :=
  .empty _ _

theorem sectionBlock_legible (identifier : Identifier) (title : String) {content : List Block}
    (inner : ∀ block ∈ content, block.Legible) :
    (sectionBlock identifier title content).Legible :=
  .element rfl _ inner

theorem SectionPart.block_legible (part : SectionPart) : part.block.Legible := by
  cases part with
  | item reference => exact reference.block_legible
  | group pool =>
      refine sectionBlock_legible _ _ ?_
      refine List.forall_mem_cons.mpr ⟨.empty _ _, List.forall_mem_cons.mpr ⟨.empty _ _, ?_⟩⟩
      exact List.forall_mem_map.mpr fun reference _ => reference.block_legible

theorem testScoreBlock_legible (score : Identifier) : (testScoreBlock score).Legible := by
  refine .element rfl _ (List.forall_mem_singleton.mpr ?_)
  exact .element rfl _ (List.forall_mem_singleton.mpr (.text rfl _ _))

theorem Test.partBlock_legible (test : Test) : test.partBlock.Legible := by
  have parts : ∀ block ∈ test.parts.map SectionPart.block, block.Legible :=
    List.forall_mem_map.mpr fun part _ => part.block_legible
  exact .element rfl _ (List.forall_mem_cons.mpr
    ⟨.empty _ _, List.forall_mem_singleton.mpr (sectionBlock_legible _ _ parts)⟩)

theorem Test.block_legible (format : Format) (test : Test) : (test.block format).Legible :=
  .element rfl _ (List.forall_mem_cons.mpr
    ⟨testScoreBlock_legible _, List.forall_mem_singleton.mpr test.partBlock_legible⟩)

theorem Navigation.name_injective : Function.Injective Navigation.name := by
  intro first second
  cases first <;> cases second <;> decide

theorem Submission.name_injective : Function.Injective Submission.name := by
  intro first second
  cases first <;> cases second <;> decide

theorem SessionControl.block_injective : Function.Injective SessionControl.block := by
  intro first second same
  simp only [SessionControl.block, Block.empty, Block.line.injEq, Inline.element.injEq,
    List.cons.injEq, Attribute.mk.injEq, true_and, and_true, flag_injective.eq_iff,
    Nat.toString_eq_repr, repr_injective.eq_iff] at same
  cases first
  cases second
  simpa using same

theorem ItemReference.block_injective : Function.Injective ItemReference.block := by
  intro first second same
  simp only [ItemReference.block, Block.empty, Block.line.injEq, Inline.element.injEq,
    List.cons.injEq, Attribute.mk.injEq, true_and, and_true,
    Identifier.text_injective.eq_iff] at same
  cases first
  cases second
  simpa using same

theorem sectionBlock_inj {identifier other : Identifier} {title otherTitle : String}
    {content others : List Block}
    (same : sectionBlock identifier title content = sectionBlock other otherTitle others) :
    identifier = other ∧ title = otherTitle ∧ content = others := by
  simp only [sectionBlock, Block.element.injEq, List.cons.injEq, Attribute.mk.injEq, true_and,
    and_true] at same
  exact ⟨Identifier.text_injective same.1.1, same.1.2, same.2⟩

theorem SectionPart.block_injective : Function.Injective SectionPart.block := by
  intro first second same
  cases first with
  | item reference =>
      cases second with
      | item other => rw [ItemReference.block_injective same]
      | group pool => cases same
  | group pool =>
      cases second with
      | item other => cases same
      | group other =>
          obtain ⟨identifiers, titles, contents⟩ := sectionBlock_inj same
          simp only [Block.empty, List.cons.injEq, Block.line.injEq, Inline.element.injEq,
            Attribute.mk.injEq, true_and, and_true, flag_injective.eq_iff, Nat.toString_eq_repr,
            repr_injective.eq_iff,
            (List.map_injective_iff.mpr ItemReference.block_injective).eq_iff] at contents
          cases pool
          cases other
          simp_all

theorem testScoreBlock_injective : Function.Injective testScoreBlock := by
  intro first second same
  simp only [testScoreBlock, Block.element.injEq, List.cons.injEq, Attribute.mk.injEq, true_and,
    and_true] at same
  exact Identifier.text_injective same

theorem Test.partBlock_inj {first second : Test} (same : first.partBlock = second.partBlock) :
    first.part = second.part ∧ first.navigation = second.navigation ∧
    first.submission = second.submission ∧ first.session = second.session ∧
    first.rootSection = second.rootSection ∧ first.rootTitle = second.rootTitle ∧
    first.parts = second.parts := by
  simp only [Test.partBlock, Block.element.injEq, List.cons.injEq, Attribute.mk.injEq, true_and,
    and_true] at same
  obtain ⟨⟨part, navigation, submission⟩, session, inner⟩ := same
  obtain ⟨identifiers, titles, contents⟩ := sectionBlock_inj inner
  exact ⟨Identifier.text_injective part, Navigation.name_injective navigation,
    Submission.name_injective submission, SessionControl.block_injective session, identifiers,
    titles, List.map_injective_iff.mpr SectionPart.block_injective contents⟩

/-- Every field of a test stands in its markup. -/
theorem Test.block_injective (format : Format) : Function.Injective (Test.block format) := by
  intro first second same
  simp only [Test.block, Block.element.injEq, List.append_cancel_left_eq, List.cons.injEq,
    Attribute.mk.injEq, true_and, and_true] at same
  obtain ⟨⟨identifiers, titles⟩, scores, inner⟩ := same
  obtain ⟨parts, navigations, submissions, sessions, sections, rootTitles, lists⟩ :=
    Test.partBlock_inj inner
  have sameIdentifier := Identifier.text_injective identifiers
  have sameScore := testScoreBlock_injective scores
  cases first
  cases second
  simp_all

/-- Different tests have different pages, whatever characters their texts hold. -/
theorem Test.page_injective (format : Format) : Function.Injective (Test.page format) := by
  intro first second same
  have blocks : first.block format = second.block format :=
    renderDocument_inj (first.block_legible format) (second.block_legible format) same
  exact Test.block_injective format blocks

/-- A test with a group of one item and another item after the group. -/
def harbour : Test :=
  { identifier := ⟨"harbour"⟩
    title := "Harbour \"lights\""
    score := ⟨"SCORE"⟩
    part := ⟨"part"⟩
    navigation := .nonlinear
    submission := .individual
    session := .standard
    rootSection := ⟨"section"⟩
    rootTitle := "Lights & <marks>"
    parts := [
      .group ⟨⟨"pool"⟩, "Red", 1, true, [⟨⟨"red"⟩, "../items/red.xml"⟩]⟩,
      .item ⟨⟨"green"⟩, "../items/green.xml"⟩] }

/-- The same test with both items in the group. -/
def gatheredHarbour : Test :=
  { harbour with
    parts := [
      .group ⟨⟨"pool"⟩, "Red", 1, true,
        [⟨⟨"red"⟩, "../items/red.xml"⟩, ⟨⟨"green"⟩, "../items/green.xml"⟩]⟩] }

theorem harbour_pages_differ (format : Format) :
    harbour.items = gatheredHarbour.items ∧ harbour.page format ≠ gatheredHarbour.page format := by
  refine ⟨rfl, fun same => ?_⟩
  have equal : harbour = gatheredHarbour := Test.page_injective format same
  exact absurd (congrArg Test.parts equal) (by decide)

end QuizPackage
