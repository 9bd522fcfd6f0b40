import QuizPackage.Layout
import QuizPackage.Number.Writing

namespace QuizPackage

/-- What keeps a question from being scored. -/
inductive QuestionFault where
  | improperPoints (points : Float)
  | noChoices
  | noCorrectChoice
  | severalCorrectChoices
  | noAcceptedTexts
  | noAcceptedNumbers
  | negativeTolerance (tolerance : Float)
  | infiniteBounds
  | emptyRange (least greatest : Float)

def QuestionFault.reason : QuestionFault → String
  | .improperPoints points =>
      "point value must be a non-negative number, got " ++ Number.display points
  | .noChoices => "question has no choices"
  | .noCorrectChoice => "no correct choice"
  | .severalCorrectChoices => "single-choice question has more than one correct choice"
  | .noAcceptedTexts => "short answer has no accepted answers"
  | .noAcceptedNumbers => "numerical question has no accepted answers"
  | .negativeTolerance tolerance => "negative tolerance " ++ Number.display tolerance
  | .infiniteBounds => "numerical bounds must be finite"
  | .emptyRange least greatest =>
      "empty numerical range [" ++ Number.display least ++ ", " ++ Number.display greatest ++ "]"

/-- How documents and identifiers fail to fit together. -/
inductive IntegrityFault where
  | choiceCount (location : Location) (choices identifiers : Nat)
  | improperAssetName (name : String)
  | missingAsset (item : Identifier) (name : String)
  | missingItem (entity : Entity)
  | undeclaredResponse (item response : Identifier)
  | undeclaredVariable (item name : Identifier)
  | undeclaredOutcome (item block : Identifier)
  | repeatedPath (path : String)
  | notIssued (path : String) (identifier : Identifier)
  | notWritten (path : String) (identifier : Identifier) (kind : DocumentKind)
  | unresolvedItem (test item : Identifier)
  | unresolvedResource (resource : Identifier) (href : String)
  | unknownDependency (resource dependency : Identifier)
  | listedOften (path : String) (times : Nat)
  | unlisted (path : String)

def IntegrityFault.document : IntegrityFault → String
  | .choiceCount location _ _ => location.describe
  | .improperAssetName _ => assetsDirectory
  | .missingAsset item _ => itemPath item
  | .missingItem _ => DocumentKind.test.name
  | .undeclaredResponse item _ => item.text
  | .undeclaredVariable item _ => item.text
  | .undeclaredOutcome item _ => item.text
  | .repeatedPath path => path
  | .notIssued path _ => path
  | .notWritten path _ _ => path
  | .unresolvedItem test _ => testPath test
  | .unresolvedResource _ _ => manifestPath
  | .unknownDependency _ _ => manifestPath
  | .listedOften _ _ => manifestPath
  | .unlisted _ => manifestPath

def IntegrityFault.detail : IntegrityFault → String
  | .choiceCount _ choices identifiers =>
      s!"{choices} choices but {identifiers} choice identifiers issued"
  | .improperAssetName name =>
      s!"asset name {Text.quoted name} is not a relative path inside the package"
  | .missingAsset _ name => s!"embedded asset {Text.quoted name} was not supplied"
  | .missingItem entity => s!"no item was built for {entity.form}"
  | .undeclaredResponse _ response =>
      s!"interaction response {response.text} has no response declaration"
  | .undeclaredVariable _ name =>
      "response processing uses undeclared variable " ++ name.text
  | .undeclaredOutcome _ block => s!"feedback block {block.text} shown by undeclared outcome"
  | .repeatedPath _ => "path is used by more than one file"
  | .notIssued _ identifier => s!"identifier {identifier.text} was not issued by the registry"
  | .notWritten _ identifier kind =>
      s!"identifier {identifier.text} is missing from the serialized {kind.name}"
  | .unresolvedItem _ item => s!"item reference {item.text} does not resolve"
  | .unresolvedResource resource href => s!"resource {resource.text} ({href}) does not resolve"
  | .unknownDependency resource dependency =>
      s!"resource {resource.text} depends on unknown {dependency.text}"
  | .listedOften path times => s!"{path} is listed {times} times"
  | .unlisted path => s!"{path} is not listed"

/-- Why no package comes of a quiz. -/
inductive Problem where
  | invalidQuestion (location : Location) (fault : QuestionFault)
  | invalidGroup (location : Location) (pick members : Nat)
  | duplicateHint (location : Location) (kind : IdentifierKind) (hint : String)
  | integrity (fault : IntegrityFault)

def Problem.message : Problem → String
  | .invalidQuestion location fault =>
      s!"invalid question at {location.describe}: {fault.reason}"
  | .invalidGroup location pick members =>
      s!"invalid group at {location.describe}: cannot pick {pick} of {members} question(s)"
  | .duplicateHint location kind hint =>
      s!"duplicate {kind.stem} identifier hint at {location.describe}: {Text.quoted hint}"
  | .integrity fault => s!"integrity violation in {fault.document}: {fault.detail}"

/-- The quiz entry to blame, if there is one. -/
def Problem.location? : Problem → Option Location
  | .invalidQuestion location _ => some location
  | .invalidGroup location _ _ => some location
  | .duplicateHint location _ _ => some location
  | .integrity _ => none

end QuizPackage
