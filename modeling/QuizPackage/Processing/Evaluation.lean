import QuizPackage.Number.Reading
import QuizPackage.Processing.Rule
import QuizPackage.Text.Blank
import QuizPackage.Text.Case

namespace QuizPackage

/-- What a candidate answers. -/
inductive Response where
  | empty
  | identifier (value : String)
  | identifiers (values : List String)
  | text (value : String)
  | number (value : Float)

/-- What comes of a response. -/
structure Outcome where
  score : Float
  feedback : List String

inductive Scalar where
  | text (value : String)
  | number (value : Float)

/-- Equality of single values; a text never equals a number. -/
def Scalar.same : Scalar → Scalar → Bool
  | .text left, .text right => left == right
  | .number left, .number right => left == right
  | _, _ => false

def Scalar.number? : Scalar → Option Float
  | .number value => some value
  | .text value => Number.read? (Text.trim value)

def Scalar.written : Scalar → String
  | .text value => value
  | .number value => Number.display value

inductive EvaluatedValue where
  | null
  | single (scalar : Scalar)
  | container (scalars : List Scalar)

def EvaluatedValue.scalars : EvaluatedValue → List Scalar
  | .null => []
  | .single scalar => [scalar]
  | .container scalars => scalars

def EvaluatedValue.truth (holds : Bool) : EvaluatedValue :=
  .single (.number (if holds then 1.0 else 0.0))

def EvaluatedValue.holds : EvaluatedValue → Bool
  | .single (.number value) => value != 0.0
  | _ => false

def EvaluatedValue.number? (value : EvaluatedValue) : Option Float :=
  value.scalars.head?.bind Scalar.number?

def EvaluatedValue.ofScalars : List Scalar → EvaluatedValue
  | [] => .null
  | scalars => .container scalars

/-- Whether two values match. Containers match when they hold the same texts; nothing matches
null. -/
def EvaluatedValue.matching : EvaluatedValue → EvaluatedValue → Bool
  | .container left, .container right =>
      Text.ascending (left.map Scalar.written) == Text.ascending (right.map Scalar.written)
  | .single left, .single right => left.same right
  | _, _ => false

/-- Whether the first value of one side is among the values of the other. -/
def EvaluatedValue.memberOf (value container : EvaluatedValue) : Bool :=
  match value.scalars with
  | [] => false
  | scalar :: _ => container.scalars.any fun other => other.same scalar

def EvaluatedValue.sameText (caseSensitive : Bool) (left right : EvaluatedValue) : Bool :=
  match left.scalars, right.scalars with
  | first :: _, second :: _ =>
      if caseSensitive then
        first.written == second.written
      else
        Text.lower first.written == Text.lower second.written
  | _, _ => false

def EvaluatedValue.compare (relation : Float → Float → Bool) (left right : EvaluatedValue) :
    Bool :=
  match left.number?, right.number? with
  | some first, some second => relation first second
  | _, _ => false

def EvaluatedValue.isNull : EvaluatedValue → Bool
  | .null => true
  | _ => false

/-- The variables of an item while its rules run. -/
structure Progress where
  response : Option Identifier
  candidate : EvaluatedValue
  scoreName : Option Identifier
  score : Float
  feedbackName : Option Identifier
  feedback : List String

def Progress.value (progress : Progress) (name : Identifier) : EvaluatedValue :=
  if progress.response == some name then
    progress.candidate
  else if progress.scoreName == some name then
    .single (.number progress.score)
  else if progress.feedbackName == some name then
    .ofScalars (progress.feedback.map Scalar.text)
  else
    .null

/-- Assigns an outcome; other variables cannot be assigned. -/
def Progress.assign (progress : Progress) (name : Identifier) (value : EvaluatedValue) :
    Progress :=
  if progress.scoreName == some name then
    { progress with score := value.number?.getD 0.0 }
  else if progress.feedbackName == some name then
    { progress with feedback := value.scalars.map Scalar.written }
  else
    progress

def literalValue (baseType : BaseType) (value : String) : EvaluatedValue :=
  match baseType with
  | .number =>
      match Number.read? value with
      | some number => .single (.number number)
      | none => .null
  | _ => .single (.text value)

mutual

def Expr.eval (progress : Progress) : Expr → EvaluatedValue
  | .read name => progress.value name
  | .literal baseType value => literalValue baseType value
  | .multiple items => .ofScalars (scalarsOfAll progress items)
  | .matches left right => .truth ((left.eval progress).matching (right.eval progress))
  | .member value container => .truth ((value.eval progress).memberOf (container.eval progress))
  | .textMatch caseSensitive left right =>
      .truth ((left.eval progress).sameText caseSensitive (right.eval progress))
  | .atLeast left right =>
      .truth ((left.eval progress).compare (fun first second => second ≤ first)
        (right.eval progress))
  | .atMost left right =>
      .truth ((left.eval progress).compare (fun first second => first ≤ second)
        (right.eval progress))
  | .all operands => .truth (allHold progress operands)
  | .any operands => .truth (anyHolds progress operands)
  | .negation operand => .truth (!(operand.eval progress).holds)
  | .isNull operand => .truth (operand.eval progress).isNull

def scalarsOfAll (progress : Progress) : List Expr → List Scalar
  | [] => []
  | expression :: rest => (expression.eval progress).scalars ++ scalarsOfAll progress rest

def allHold (progress : Progress) : List Expr → Bool
  | [] => true
  | expression :: rest => (expression.eval progress).holds && allHold progress rest

def anyHolds (progress : Progress) : List Expr → Bool
  | [] => false
  | expression :: rest => (expression.eval progress).holds || anyHolds progress rest

end

mutual

def Rule.run : Rule → Progress → Progress
  | .condition branches otherwise, progress =>
      match runBranches branches progress with
      | some progress => progress
      | none => runRules otherwise progress
  | .assign name value, progress => progress.assign name (value.eval progress)

/-- Runs a branch if its condition holds. -/
def Branch.run? : Branch → Progress → Option Progress
  | .mk condition rules, progress =>
      if (condition.eval progress).holds then some (runRules rules progress) else none

/-- Runs the first branch whose condition holds. -/
def runBranches : List Branch → Progress → Option Progress
  | [], _ => none
  | branch :: rest, progress =>
      match branch.run? progress with
      | some progress => some progress
      | none => runBranches rest progress

def runRules : List Rule → Progress → Progress
  | [], progress => progress
  | rule :: rest, progress => runRules rest (rule.run progress)

end

/-- The value of a response. Empty texts and empty selections are null. -/
def Response.value : Response → EvaluatedValue
  | .empty => .null
  | .identifier value => .single (.text value)
  | .identifiers values => .ofScalars ((Text.ascending values).map Scalar.text)
  | .text value => if value == "" then .null else .single (.text value)
  | .number value => .single (.number value)

/-- The score before any rule has run. -/
def Declarations.startingScore (declarations : Declarations) : Float :=
  let written := (declarations.outcome? .score).bind OutcomeDeclaration.defaultValue
  (written.bind Number.read?).getD 0.0

/-- The variables before any rule has run. -/
def Synthesis.start (synthesis : Synthesis) (response : Response) : Progress :=
  let declarations := synthesis.declarations
  { response := declarations.response.map ResponseDeclaration.identifier
    candidate := response.value
    scoreName := (declarations.outcome? .score).map OutcomeDeclaration.identifier
    score := declarations.startingScore
    feedbackName := (declarations.outcome? .feedback).map OutcomeDeclaration.identifier
    feedback := [] }

/-- Runs the rules of an item on a response. The outcome is a score and the feedback blocks that are
shown, in the order in which they were added. -/
def Synthesis.score (synthesis : Synthesis) (response : Response) : Outcome :=
  let finished := runRules synthesis.rules (synthesis.start response)
  ⟨finished.score, finished.feedback⟩

end QuizPackage
