import QuizPackage.Page.Addresses
import QuizPackage.Test

namespace QuizPackage

open Markup

def testScoreBlock (score : Identifier) : Block :=
  let attributes := [
    ⟨.identifier, score.text⟩,
    ⟨.cardinality, "single"⟩,
    ⟨.baseType, "float"⟩]
  .element .outcomeDeclaration attributes [.element .defaultValue [] [.text .value [] "0.0"]]

def SessionControl.block (session : SessionControl) : Block :=
  .empty .itemSessionControl [
    ⟨.maxAttempts, toString session.maxAttempts⟩,
    ⟨.showFeedback, flag session.showFeedback⟩,
    ⟨.showSolution, flag session.showSolution⟩,
    ⟨.allowComment, flag session.allowComment⟩,
    ⟨.allowSkipping, flag session.allowSkipping⟩,
    ⟨.validateResponses, flag session.validateResponses⟩]

def ItemReference.block (reference : ItemReference) : Block :=
  .empty .assessmentItemRef [⟨.identifier, reference.identifier.text⟩, ⟨.href, reference.href⟩]

def sectionBlock (identifier : Identifier) (title : String) (content : List Block) : Block :=
  let attributes := [⟨.identifier, identifier.text⟩, ⟨.title, title⟩, ⟨.visible, "true"⟩]
  .element .assessmentSection attributes content

def SectionPart.block : SectionPart → Block
  | .item reference => reference.block
  | .group pool =>
      sectionBlock pool.identifier pool.title (
        .empty .selection [⟨.select, toString pool.select⟩] ::
        .empty .ordering [⟨.shuffle, flag pool.shuffle⟩] ::
        pool.items.map ItemReference.block)

def Test.partBlock (test : Test) : Block :=
  let attributes := [
    ⟨.identifier, test.part.text⟩,
    ⟨.navigationMode, test.navigation.name⟩,
    ⟨.submissionMode, test.submission.name⟩]
  .element .testPart attributes [
    test.session.block,
    sectionBlock test.rootSection test.rootTitle (test.parts.map SectionPart.block)]

def Test.block (format : Format) (test : Test) : Block :=
  let attributes := contentAttributes format ++ [
    ⟨.identifier, test.identifier.text⟩,
    ⟨.title, test.title⟩]
  .element .assessmentTest attributes [testScoreBlock test.score, test.partBlock]

def Test.page (format : Format) (test : Test) : String :=
  renderDocument format (test.block format)

end QuizPackage
