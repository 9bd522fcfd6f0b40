import QuizPackage.Number.Writing
import QuizPackage.Processing.Declaration

namespace QuizPackage

inductive Expr where
  | read (name : Identifier)
  | literal (baseType : BaseType) (value : String)
  | multiple (items : List Expr)
  | matches (left right : Expr)
  | member (value container : Expr)
  | textMatch (caseSensitive : Bool) (left right : Expr)
  | atLeast (left right : Expr)
  | atMost (left right : Expr)
  | all (operands : List Expr)
  | any (operands : List Expr)
  | negation (operand : Expr)
  | isNull (operand : Expr)

def Expr.identifier (identifier : Identifier) : Expr :=
  .literal .identifier identifier.text

def Expr.text (value : String) : Expr :=
  .literal .text value

def Expr.number (value : Float) : Expr :=
  .literal .number (Number.literal value)

mutual

inductive Rule where
  /-- Follows the first branch whose condition holds, or else the rules of last resort. -/
  | condition (branches : List Branch) (otherwise : List Rule)
  | assign (name : Identifier) (value : Expr)

inductive Branch where
  | mk (condition : Expr) (rules : List Rule)

end

mutual

def Expr.variables : Expr → List Identifier
  | .read name => [name]
  | .literal _ _ => []
  | .multiple items => variablesOfAll items
  | .matches left right => left.variables ++ right.variables
  | .member value container => value.variables ++ container.variables
  | .textMatch _ left right => left.variables ++ right.variables
  | .atLeast left right => left.variables ++ right.variables
  | .atMost left right => left.variables ++ right.variables
  | .all operands => variablesOfAll operands
  | .any operands => variablesOfAll operands
  | .negation operand => operand.variables
  | .isNull operand => operand.variables

def variablesOfAll : List Expr → List Identifier
  | [] => []
  | expression :: rest => expression.variables ++ variablesOfAll rest

end

mutual

def Expr.identifierValues : Expr → List String
  | .read _ => []
  | .literal .identifier value => [value]
  | .literal _ _ => []
  | .multiple items => identifierValuesOfAll items
  | .matches left right => left.identifierValues ++ right.identifierValues
  | .member value container => value.identifierValues ++ container.identifierValues
  | .textMatch _ left right => left.identifierValues ++ right.identifierValues
  | .atLeast left right => left.identifierValues ++ right.identifierValues
  | .atMost left right => left.identifierValues ++ right.identifierValues
  | .all operands => identifierValuesOfAll operands
  | .any operands => identifierValuesOfAll operands
  | .negation operand => operand.identifierValues
  | .isNull operand => operand.identifierValues

def identifierValuesOfAll : List Expr → List String
  | [] => []
  | expression :: rest => expression.identifierValues ++ identifierValuesOfAll rest

end

mutual

def Rule.variables : Rule → List Identifier
  | .condition branches otherwise => variablesOfBranches branches ++ variablesOfRules otherwise
  | .assign name value => name :: value.variables

def Branch.variables : Branch → List Identifier
  | .mk condition rules => condition.variables ++ variablesOfRules rules

def variablesOfBranches : List Branch → List Identifier
  | [] => []
  | branch :: rest => branch.variables ++ variablesOfBranches rest

def variablesOfRules : List Rule → List Identifier
  | [] => []
  | rule :: rest => rule.variables ++ variablesOfRules rest

end

mutual

def Rule.identifierValues : Rule → List String
  | .condition branches otherwise =>
      identifierValuesOfBranches branches ++ identifierValuesOfRules otherwise
  | .assign _ value => value.identifierValues

def Branch.identifierValues : Branch → List String
  | .mk condition rules => condition.identifierValues ++ identifierValuesOfRules rules

def identifierValuesOfBranches : List Branch → List String
  | [] => []
  | branch :: rest => branch.identifierValues ++ identifierValuesOfBranches rest

def identifierValuesOfRules : List Rule → List String
  | [] => []
  | rule :: rest => rule.identifierValues ++ identifierValuesOfRules rest

end

/-- The declarations of an item with the rules that compute its outcomes. -/
structure Synthesis where
  declarations : Declarations
  rules : List Rule

/-- The variables that the rules read or assign, each once. -/
def Synthesis.variables (synthesis : Synthesis) : List Identifier :=
  Text.ascending (variablesOfRules synthesis.rules)

/-- The identifiers that the rules hold as literals, each once. -/
def Synthesis.identifierValues (synthesis : Synthesis) : List String :=
  Text.ascending (identifierValuesOfRules synthesis.rules)

end QuizPackage
