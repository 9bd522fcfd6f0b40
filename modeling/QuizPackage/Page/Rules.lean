import QuizPackage.Markup.Tree
import QuizPackage.Processing.Rule

namespace QuizPackage

open Markup

mutual

def Expr.block : Expr → Block
  | .read name => .empty .variableValue [⟨.identifier, name.text⟩]
  | .literal baseType value => .text .baseValue [⟨.baseType, baseType.name⟩] value
  | .multiple items => .element .multiple [] (blocksOfAll items)
  | .matches left right => .element .matchBoth [] [left.block, right.block]
  | .member value container => .element .member [] [value.block, container.block]
  | .textMatch caseSensitive left right =>
      .element .stringMatch [⟨.caseSensitive, flag caseSensitive⟩] [left.block, right.block]
  | .atLeast left right => .element .atLeast [] [left.block, right.block]
  | .atMost left right => .element .atMost [] [left.block, right.block]
  | .all operands => .element .all [] (blocksOfAll operands)
  | .any operands => .element .any [] (blocksOfAll operands)
  | .negation operand => .element .negation [] [operand.block]
  | .isNull operand => .element .isNull [] [operand.block]

def blocksOfAll : List Expr → List Block
  | [] => []
  | expression :: rest => expression.block :: blocksOfAll rest

end

mutual

def Rule.block : Rule → Block
  | .condition branches otherwise =>
      .element .responseCondition []
        (blocksOfBranches .responseIf branches ++ blocksOfLastResort otherwise)
  | .assign name value => .element .setOutcomeValue [⟨.identifier, name.text⟩] [value.block]

def Branch.block (name : ElementName) : Branch → Block
  | .mk condition rules => .element name [] (condition.block :: blocksOfRules rules)

/-- Some branches as markup; all after the first are alternatives. -/
def blocksOfBranches (name : ElementName) : List Branch → List Block
  | [] => []
  | branch :: rest => branch.block name :: blocksOfBranches .responseElseIf rest

/-- The rules of last resort as markup, if there are any. -/
def blocksOfLastResort : List Rule → List Block
  | [] => []
  | rule :: rest => [.element .responseElse [] (rule.block :: blocksOfRules rest)]

def blocksOfRules : List Rule → List Block
  | [] => []
  | rule :: rest => rule.block :: blocksOfRules rest

end

/-- Response processing as markup; without rules there is none. -/
def processingBlocks (rules : List Rule) : List Block :=
  match rules with
  | [] => []
  | rules => [.element .responseProcessing [] (blocksOfRules rules)]

end QuizPackage
