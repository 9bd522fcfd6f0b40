import QuizPackage.Source.Value

/-!
# Fields

Takes records, lists and plain values out of source values, by the rules of an outside library that
decodes them. A record is written as a table, in which unknown names are passed over, or as a list
of its fields in order.
-/

namespace QuizPackage.Source

inductive Grammar where
  | json
  | toml
deriving DecidableEq, Repr

def Grammar.name : Grammar → String
  | .json => "JSON"
  | .toml => "TOML"

/-- The members of a table that bear one of the given names, unless a name comes twice. -/
def knownMembers? (names : List String) : List (String × Value) → Option (List (String × Value))
  | [] => some []
  | (name, value) :: rest =>
      match knownMembers? names rest with
      | none => none
      | some known =>
          if !names.contains name then
            some known
          else if (known.lookup name).isSome then
            none
          else
            some ((name, value) :: known)

/-- The fields of a record by name. In JSON, a list may not be longer than the record. A date
counts as a table without known names. -/
def fields? (grammar : Grammar) (names : List String) : Value → Option (List (String × Value))
  | .table members => knownMembers? names members
  | .list items =>
      if grammar == .json && names.length < items.length then none else some (names.zip items)
  | .moment => some []
  | _ => none

/-- A field that must be there. -/
def required? {α : Type} (take : Value → Option α) (name : String)
    (fields : List (String × Value)) : Option α :=
  (fields.lookup name).bind take

def withDefault? {α : Type} (default : α) (take : Value → Option α) (name : String)
    (fields : List (String × Value)) : Option α :=
  match fields.lookup name with
  | some value => take value
  | none => some default

def nullable? {α : Type} (take : Value → Option α) : Value → Option (Option α)
  | .null => some none
  | value => (take value).map some

def optional? {α : Type} (take : Value → Option α) (name : String)
    (fields : List (String × Value)) : Option (Option α) :=
  withDefault? none (nullable? take) name fields

def text? : Value → Option String
  | .text value => some value
  | _ => none

def boolean? : Value → Option Bool
  | .boolean value => some value
  | _ => none

def number? : Value → Option Float
  | .integer value => some (wholeNumber value)
  | .number value => some value
  | _ => none

/-- A whole number that is not negative. -/
def count? : Value → Option Nat
  | .integer (.ofNat value) => some value
  | _ => none

def list? {α : Type} (take : Value → Option α) : Value → Option (List α)
  | .list items => items.mapM take
  | _ => none

end QuizPackage.Source
