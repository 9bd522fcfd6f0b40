import QuizPackage.Identifier.Base
import QuizPackage.Problem

/-!
# Identifier registry

Issues the identifiers of one package. No identifier is issued twice, an entity keeps the
identifier it is once bound to, and the names of variables are unique for each owner.
-/

namespace QuizPackage

/-- The identifiers of one package. -/
structure Registry where
  /-- What every identifier ends with, unless it is empty. -/
  suffix : String
  strict : Bool
  bases : List String
  issued : List (Identifier × IdentifierKind)
  bound : List (Entity × Identifier)
  owned : List (Identifier × Identifier)

/-- A registry that has issued nothing. -/
def Registry.empty (suffix : String) (strict : Bool) : Registry :=
  ⟨sanitize suffix, strict, [], [], [], []⟩

def Registry.identifier (registry : Registry) (base : String) : Identifier :=
  if registry.suffix == "" then ⟨base⟩ else ⟨base ++ "_" ++ registry.suffix⟩

/-- Issues a new identifier; a base that is taken gets a number. -/
def Registry.issue (registry : Registry) (kind : IdentifierKind) (hint : Option String) :
    Identifier × Registry :=
  let base := firstFree (baseFor kind hint) registry.bases
  let identifier := registry.identifier base
  (identifier,
    { registry with
      bases := base :: registry.bases
      issued := (identifier, kind) :: registry.issued })

/-- The identifier bound to an entity, if there is one. -/
def Registry.lookup (registry : Registry) (entity : Entity) : Option Identifier :=
  registry.bound.lookup entity

/-- The location and the hint for which strictness refuses an identifier. Only entities of quiz
entries are refused, and only for hints of which something is left. -/
def Registry.refusal? (registry : Registry) (entity : Entity) (kind : IdentifierKind)
    (hint : Option String) : Option (Location × String) :=
  match hint, entity.location? with
  | some hint, some location =>
      let taken := registry.bases.contains (baseFor kind (some hint))
      if registry.strict && sanitize hint != "" && taken then some (location, hint) else none
  | _, _ => none

/-- A step that takes identifiers from a registry, and may fail. -/
abbrev Issuing := EStateM Problem Registry

def Issuing.stop {α : Type} (problem : Problem) : Issuing α := fun registry =>
  .error problem registry

/-- Issues an identifier and binds it to an entity, or returns the one that is bound already. -/
def issueFor (entity : Entity) (kind : IdentifierKind) (hint : Option String) :
    Issuing Identifier := fun registry =>
  match registry.lookup entity with
  | some identifier => .ok identifier registry
  | none =>
      match registry.refusal? entity kind hint with
      | some (location, hint) => .error (.duplicateHint location kind hint) registry
      | none =>
          let (identifier, issued) := registry.issue kind hint
          .ok identifier { issued with bound := (entity, identifier) :: issued.bound }

def Registry.variablesOf (registry : Registry) (owner : Identifier) : List String :=
  (registry.owned.filter fun issued => issued.1 == owner).map fun issued =>
    issued.2.text

/-- Issues a variable such as `RESPONSE`, whose name is unique for its owner only. -/
def Registry.issueVariable (registry : Registry) (owner : Identifier) (name : String) :
    Identifier × Registry :=
  let base := String.ofList ((baseFor .variableName (some name)).toList.map Char.toUpper)
  let identifier : Identifier := ⟨firstFree base (registry.variablesOf owner)⟩
  (identifier, { registry with owned := (owner, identifier) :: registry.owned })

def issueVariable (owner : Identifier) (name : String) : Issuing Identifier := fun registry =>
  let (identifier, registry) := registry.issueVariable owner name
  .ok identifier registry

def Registry.isVariableOf (registry : Registry) (owner name : Identifier) : Bool :=
  registry.owned.contains (owner, name)

/-- What an identifier was issued for, if it was issued. -/
def Registry.kindOf (registry : Registry) (identifier : Identifier) : Option IdentifierKind :=
  registry.issued.lookup identifier

def Registry.contains (registry : Registry) (identifier : Identifier) : Bool :=
  (registry.kindOf identifier).isSome

def Registry.size (registry : Registry) : Nat :=
  registry.issued.length

end QuizPackage
