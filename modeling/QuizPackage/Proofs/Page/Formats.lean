import QuizPackage.Proofs.Markup.Respelling
import QuizPackage.Proofs.Page.Rules
import QuizPackage.Proofs.Page.Test

/-!
# Pages in both formats

Response processing and tests are written alike in both formats. What one format writes is what the
other writes, with each name of an element or an attribute replaced by its entry in one table.
Tests differ further in the addresses of their root tag, which lead to the schemas of their format.
-/

namespace QuizPackage

open Markup

/-- The name spaces and schemas in the root tag of a test. -/
def addresses (format : Format) : String :=
  String.join ((contentAttributes format).map (Attribute.render format))

/-- What follows the addresses in the page of a test. -/
def Test.pageTail (format : Format) (test : Test) : String :=
  String.join ([⟨.identifier, test.identifier.text⟩, ⟨.title, test.title⟩].map
      (Attribute.render format)) ++ ">" ++ "\n" ++
    renderBlocks format 1 [testScoreBlock test.score, test.partBlock] ++ indent 0 ++
    renderEnd format .assessmentTest ++ "\n"

/-- The attributes that hold addresses have the same names in both formats. -/
theorem contentAttributes_render (format other : Format) :
    String.join ((contentAttributes format).map (Attribute.render other)) = addresses format := by
  cases format <;> cases other <;> rfl

/-- The page of a test with the addresses of one format, in the names of another. -/
theorem Test.render_block (format other : Format) (test : Test) :
    (test.block format).render other 0 =
      "<" ++ ElementName.assessmentTest.spelling.in other ++ addresses format ++
        test.pageTail other := by
  have unindented : indent 0 = "" := rfl
  simp only [Test.block, Block.render, renderStart, renderTag, List.map_append, String.join_append,
    contentAttributes_render, unindented, Test.pageTail, String.append_assoc, String.empty_append]

theorem respelled?_rules (rules : List Rule) (depth : Nat) :
    respelled? spellings (renderBlocks .qti21 depth (processingBlocks rules)) =
      some (renderBlocks .qti30 depth (processingBlocks rules)) :=
  respelled?_renderBlocks (processingBlocks_legible rules) depth

theorem Test.respelled?_block (format : Format) (test : Test) :
    respelled? spellings ((test.block format).render .qti21 0) =
      some ((test.block format).render .qti30 0) := by
  have blocks : respelled? spellings (renderBlocks .qti21 0 [test.block format]) =
      some (renderBlocks .qti30 0 [test.block format]) :=
    respelled?_renderBlocks (List.forall_mem_singleton.mpr (test.block_legible format)) 0
  simpa only [renderBlocks, String.append_empty] using blocks

/-- Both formats write the same pages in different names. One table in which no name stands twice
on either side respells the response processing of every rule list, and respells the page of every
test once the addresses in its root tag are exchanged; nothing else differs. -/
theorem formats_differ_in_spelling :
    (spellings.map Prod.fst).Nodup ∧ (spellings.map Prod.snd).Nodup ∧
    (∀ (rules : List Rule) (depth : Nat),
      respelled? spellings (renderBlocks .qti21 depth (processingBlocks rules)) =
        some (renderBlocks .qti30 depth (processingBlocks rules))) ∧
    ∀ test : Test, ∃ tail root,
      test.page .qti21 = declaration ++ ("<assessmentTest" ++ addresses .qti21 ++ tail) ∧
      test.page .qti30 = declaration ++ root ∧
      respelled? spellings ("<assessmentTest" ++ addresses .qti30 ++ tail) = some root := by
  refine ⟨spellings_distinct.1, spellings_distinct.2, respelled?_rules, fun test => ?_⟩
  have written (format : Format) : (test.block format).render .qti21 0 =
      "<assessmentTest" ++ addresses format ++ test.pageTail .qti21 :=
    test.render_block format .qti21
  refine ⟨test.pageTail .qti21, (test.block .qti30).render .qti30 0, ?page, rfl, ?respelled⟩
  case page => rw [Test.page, renderDocument, written]
  case respelled => rw [← written, test.respelled?_block]

end QuizPackage
