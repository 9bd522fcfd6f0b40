import QuizPackage.Identifier

namespace QuizPackage

inductive Cardinality where
  | single
  | multiple
deriving DecidableEq, Repr

def Cardinality.name : Cardinality → String
  | .single => "single"
  | .multiple => "multiple"

inductive BaseType where
  | identifier
  | text
  | number
  | file
deriving DecidableEq, Repr

def BaseType.name : BaseType → String
  | .identifier => "identifier"
  | .text => "string"
  | .number => "float"
  | .file => "file"

structure ResponseDeclaration where
  identifier : Identifier
  cardinality : Cardinality
  baseType : BaseType
  correct : List String

inductive OutcomeRole where
  | score
  | feedback
deriving DecidableEq, Repr

def OutcomeRole.name : OutcomeRole → String
  | .score => "score"
  | .feedback => "feedback"

structure OutcomeDeclaration where
  identifier : Identifier
  role : OutcomeRole
  cardinality : Cardinality
  baseType : BaseType
  defaultValue : Option String
  normalMaximum : Option Float
  humanScored : Bool

structure Declarations where
  response : Option ResponseDeclaration
  outcomes : List OutcomeDeclaration

def Declarations.outcome? (declarations : Declarations) (role : OutcomeRole) :
    Option OutcomeDeclaration :=
  declarations.outcomes.find? fun outcome => outcome.role == role

def Declarations.identifiers (declarations : Declarations) : List Identifier :=
  declarations.response.toList.map ResponseDeclaration.identifier ++
    declarations.outcomes.map OutcomeDeclaration.identifier

end QuizPackage
