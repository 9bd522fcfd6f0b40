import QuizPackage.Data
import QuizPackage.Processing.Rule

namespace QuizPackage

def Identifier.data (identifier : Identifier) : Data :=
  .text identifier.text

def expressionData (operator : String) (parts : List (String × Data)) : Data :=
  .record (("op", .text operator) :: parts)

mutual

def Expr.data : Expr → Data
  | .read name => expressionData "variable" [("identifier", name.data)]
  | .literal baseType value =>
      expressionData "value" [("base_type", .text baseType.name), ("value", .text value)]
  | .multiple items => expressionData "multiple" [("items", .list (dataOfAll items))]
  | .matches left right => expressionData "match" [("left", left.data), ("right", right.data)]
  | .member value container =>
      expressionData "member" [("value", value.data), ("container", container.data)]
  | .textMatch caseSensitive left right =>
      expressionData "string_match"
        [("case_sensitive", .truth caseSensitive), ("left", left.data), ("right", right.data)]
  | .atLeast left right => expressionData "gte" [("left", left.data), ("right", right.data)]
  | .atMost left right => expressionData "lte" [("left", left.data), ("right", right.data)]
  | .all operands => expressionData "and" [("operands", .list (dataOfAll operands))]
  | .any operands => expressionData "or" [("operands", .list (dataOfAll operands))]
  | .negation operand => expressionData "not" [("operand", operand.data)]
  | .isNull operand => expressionData "is_null" [("operand", operand.data)]

def dataOfAll : List Expr → List Data
  | [] => []
  | expression :: rest => expression.data :: dataOfAll rest

end

mutual

def Rule.data : Rule → Data
  | .condition branches otherwise =>
      .record [
        ("rule", .text "condition"),
        ("branches", .list (dataOfBranches branches)),
        ("otherwise", .list (dataOfRules otherwise))]
  | .assign name value =>
      .record [
        ("rule", .text "set_outcome"),
        ("identifier", name.data),
        ("value", value.data)]

def Branch.data : Branch → Data
  | .mk condition rules =>
      .record [("condition", condition.data), ("rules", .list (dataOfRules rules))]

def dataOfBranches : List Branch → List Data
  | [] => []
  | branch :: rest => branch.data :: dataOfBranches rest

def dataOfRules : List Rule → List Data
  | [] => []
  | rule :: rest => rule.data :: dataOfRules rest

end

def ResponseDeclaration.data (declaration : ResponseDeclaration) : Data :=
  .record [
    ("identifier", declaration.identifier.data),
    ("cardinality", .text declaration.cardinality.name),
    ("base_type", .text declaration.baseType.name),
    ("correct", .texts declaration.correct)]

def OutcomeDeclaration.data (declaration : OutcomeDeclaration) : Data :=
  .record [
    ("identifier", declaration.identifier.data),
    ("role", .text declaration.role.name),
    ("cardinality", .text declaration.cardinality.name),
    ("base_type", .text declaration.baseType.name),
    ("default_value", .optional .text declaration.defaultValue),
    ("normal_maximum", .optional .measure declaration.normalMaximum),
    ("human_scored", .truth declaration.humanScored)]

def Synthesis.data (synthesis : Synthesis) : Data :=
  let declarations := synthesis.declarations
  .record [
    ("declarations", .record [
      ("response", .optional ResponseDeclaration.data declarations.response),
      ("outcomes", .list (declarations.outcomes.map OutcomeDeclaration.data))]),
    ("processing", .record [("rules", .list (dataOfRules synthesis.rules))])]

end QuizPackage
