import QuizPackage.Format

namespace QuizPackage.Markup

inductive ElementName where
  | assessmentItem
  | responseDeclaration
  | correctResponse
  | value
  | outcomeDeclaration
  | defaultValue
  | itemBody
  | itemPrompt
  | simpleChoice
  | choiceInteraction
  | textEntryInteraction
  | extendedTextInteraction
  | uploadInteraction
  | modalFeedback
  | contentBody
  | responseProcessing
  | responseCondition
  | responseIf
  | responseElseIf
  | responseElse
  | setOutcomeValue
  | variableValue
  | baseValue
  | multiple
  | matchBoth
  | member
  | stringMatch
  | atLeast
  | atMost
  | all
  | any
  | negation
  | isNull
  | assessmentTest
  | testPart
  | itemSessionControl
  | assessmentSection
  | selection
  | ordering
  | assessmentItemRef
  | manifest
  | metadata
  | schema
  | schemaVersion
  | record
  | recordGeneral
  | recordTitle
  | recordDescription
  | recordLifeCycle
  | recordVersion
  | recordTechnical
  | recordFormat
  | recordString
  | organizations
  | resources
  | resource
  | interactionMetadata
  | interactionType
  | file
  | dependency
  | division
  | heading
  | paragraph
deriving DecidableEq, Repr

inductive AttributeName where
  | standardSpace
  | instanceSpace
  | recordSpace
  | interactionSpace
  | schemaLocation
  | identifier
  | title
  | adaptive
  | timeDependent
  | cardinality
  | baseType
  | interpretation
  | externalScored
  | normalMaximum
  | responseIdentifier
  | shuffle
  | maxChoices
  | expectedLength
  | expectedLines
  | outcomeIdentifier
  | showHide
  | caseSensitive
  | navigationMode
  | submissionMode
  | maxAttempts
  | showFeedback
  | showSolution
  | allowComment
  | allowSkipping
  | validateResponses
  | visible
  | select
  | href
  | kind
  | identifierRef
  | styleClass
deriving DecidableEq, Repr

structure Spelling where
  qti21 : String
  qti30 : String

def Spelling.common (name : String) : Spelling :=
  ⟨name, name⟩

def Spelling.in (spelling : Spelling) : Format → String
  | .qti21 => spelling.qti21
  | .qti30 => spelling.qti30

def ElementName.spelling : ElementName → Spelling
  | .assessmentItem => ⟨"assessmentItem", "qti-assessment-item"⟩
  | .responseDeclaration => ⟨"responseDeclaration", "qti-response-declaration"⟩
  | .correctResponse => ⟨"correctResponse", "qti-correct-response"⟩
  | .value => ⟨"value", "qti-value"⟩
  | .outcomeDeclaration => ⟨"outcomeDeclaration", "qti-outcome-declaration"⟩
  | .defaultValue => ⟨"defaultValue", "qti-default-value"⟩
  | .itemBody => ⟨"itemBody", "qti-item-body"⟩
  | .itemPrompt => ⟨"prompt", "qti-prompt"⟩
  | .simpleChoice => ⟨"simpleChoice", "qti-simple-choice"⟩
  | .choiceInteraction => ⟨"choiceInteraction", "qti-choice-interaction"⟩
  | .textEntryInteraction => ⟨"textEntryInteraction", "qti-text-entry-interaction"⟩
  | .extendedTextInteraction => ⟨"extendedTextInteraction", "qti-extended-text-interaction"⟩
  | .uploadInteraction => ⟨"uploadInteraction", "qti-upload-interaction"⟩
  | .modalFeedback => ⟨"modalFeedback", "qti-modal-feedback"⟩
  | .contentBody => ⟨"contentBody", "qti-content-body"⟩
  | .responseProcessing => ⟨"responseProcessing", "qti-response-processing"⟩
  | .responseCondition => ⟨"responseCondition", "qti-response-condition"⟩
  | .responseIf => ⟨"responseIf", "qti-response-if"⟩
  | .responseElseIf => ⟨"responseElseIf", "qti-response-else-if"⟩
  | .responseElse => ⟨"responseElse", "qti-response-else"⟩
  | .setOutcomeValue => ⟨"setOutcomeValue", "qti-set-outcome-value"⟩
  | .variableValue => ⟨"variable", "qti-variable"⟩
  | .baseValue => ⟨"baseValue", "qti-base-value"⟩
  | .multiple => ⟨"multiple", "qti-multiple"⟩
  | .matchBoth => ⟨"match", "qti-match"⟩
  | .member => ⟨"member", "qti-member"⟩
  | .stringMatch => ⟨"stringMatch", "qti-string-match"⟩
  | .atLeast => ⟨"gte", "qti-gte"⟩
  | .atMost => ⟨"lte", "qti-lte"⟩
  | .all => ⟨"and", "qti-and"⟩
  | .any => ⟨"or", "qti-or"⟩
  | .negation => ⟨"not", "qti-not"⟩
  | .isNull => ⟨"isNull", "qti-is-null"⟩
  | .assessmentTest => ⟨"assessmentTest", "qti-assessment-test"⟩
  | .testPart => ⟨"testPart", "qti-test-part"⟩
  | .itemSessionControl => ⟨"itemSessionControl", "qti-item-session-control"⟩
  | .assessmentSection => ⟨"assessmentSection", "qti-assessment-section"⟩
  | .selection => ⟨"selection", "qti-selection"⟩
  | .ordering => ⟨"ordering", "qti-ordering"⟩
  | .assessmentItemRef => ⟨"assessmentItemRef", "qti-assessment-item-ref"⟩
  | .manifest => .common "manifest"
  | .metadata => .common "metadata"
  | .schema => .common "schema"
  | .schemaVersion => .common "schemaversion"
  | .record => .common "imsmd:lom"
  | .recordGeneral => .common "imsmd:general"
  | .recordTitle => .common "imsmd:title"
  | .recordDescription => .common "imsmd:description"
  | .recordLifeCycle => .common "imsmd:lifeCycle"
  | .recordVersion => .common "imsmd:version"
  | .recordTechnical => .common "imsmd:technical"
  | .recordFormat => .common "imsmd:format"
  | .recordString => .common "imsmd:string"
  | .organizations => .common "organizations"
  | .resources => .common "resources"
  | .resource => .common "resource"
  | .interactionMetadata => .common "imsqti:qtiMetadata"
  | .interactionType => .common "imsqti:interactionType"
  | .file => .common "file"
  | .dependency => .common "dependency"
  | .division => .common "div"
  | .heading => .common "h3"
  | .paragraph => .common "p"

def AttributeName.spelling : AttributeName → Spelling
  | .standardSpace => .common "xmlns"
  | .instanceSpace => .common "xmlns:xsi"
  | .recordSpace => .common "xmlns:imsmd"
  | .interactionSpace => .common "xmlns:imsqti"
  | .schemaLocation => .common "xsi:schemaLocation"
  | .identifier => .common "identifier"
  | .title => .common "title"
  | .adaptive => .common "adaptive"
  | .timeDependent => ⟨"timeDependent", "time-dependent"⟩
  | .cardinality => .common "cardinality"
  | .baseType => ⟨"baseType", "base-type"⟩
  | .interpretation => .common "interpretation"
  | .externalScored => ⟨"externalScored", "external-scored"⟩
  | .normalMaximum => ⟨"normalMaximum", "normal-maximum"⟩
  | .responseIdentifier => ⟨"responseIdentifier", "response-identifier"⟩
  | .shuffle => .common "shuffle"
  | .maxChoices => ⟨"maxChoices", "max-choices"⟩
  | .expectedLength => ⟨"expectedLength", "expected-length"⟩
  | .expectedLines => ⟨"expectedLines", "expected-lines"⟩
  | .outcomeIdentifier => ⟨"outcomeIdentifier", "outcome-identifier"⟩
  | .showHide => ⟨"showHide", "show-hide"⟩
  | .caseSensitive => ⟨"caseSensitive", "case-sensitive"⟩
  | .navigationMode => ⟨"navigationMode", "navigation-mode"⟩
  | .submissionMode => ⟨"submissionMode", "submission-mode"⟩
  | .maxAttempts => ⟨"maxAttempts", "max-attempts"⟩
  | .showFeedback => ⟨"showFeedback", "show-feedback"⟩
  | .showSolution => ⟨"showSolution", "show-solution"⟩
  | .allowComment => ⟨"allowComment", "allow-comment"⟩
  | .allowSkipping => ⟨"allowSkipping", "allow-skipping"⟩
  | .validateResponses => ⟨"validateResponses", "validate-responses"⟩
  | .visible => .common "visible"
  | .select => .common "select"
  | .href => .common "href"
  | .kind => .common "type"
  | .identifierRef => .common "identifierref"
  | .styleClass => .common "class"

end QuizPackage.Markup
