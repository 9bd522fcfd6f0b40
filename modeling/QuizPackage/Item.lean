import QuizPackage.Problem
import QuizPackage.Processing.Evaluation

namespace QuizPackage

inductive InteractionKind where
  | choice
  | textEntry
  | extendedText
  | upload
deriving DecidableEq, Repr

def InteractionKind.name : InteractionKind → String
  | .choice => "choice"
  | .textEntry => "text_entry"
  | .extendedText => "extended_text"
  | .upload => "upload"

structure SimpleChoice where
  identifier : Identifier
  body : String
deriving DecidableEq

inductive Interaction where
  | choice (response : Identifier) (shuffle : Bool) (maxChoices : Nat)
      (choices : List SimpleChoice)
  | textEntry (response : Identifier) (expectedLength : Nat)
  | extendedText (response : Identifier) (expectedLines : Nat)
  | upload (response : Identifier)
deriving DecidableEq

def Interaction.kind : Interaction → InteractionKind
  | .choice _ _ _ _ => .choice
  | .textEntry _ _ => .textEntry
  | .extendedText _ _ => .extendedText
  | .upload _ => .upload

def Interaction.response : Interaction → Identifier
  | .choice response _ _ _ => response
  | .textEntry response _ => response
  | .extendedText response _ => response
  | .upload response => response

def Interaction.choices : Interaction → List SimpleChoice
  | .choice _ _ _ choices => choices
  | .textEntry _ _ | .extendedText _ _ | .upload _ => []

inductive ItemBody where
  | question (prompt : String) (interaction : Interaction)
  | text (title : Option String) (markup : String)
deriving DecidableEq

structure FeedbackBlock where
  identifier : Identifier
  outcome : Identifier
  body : String
deriving DecidableEq

/-- An item of a package. -/
structure Item where
  identifier : Identifier
  title : String
  kind : String
  points : Float
  synthesis : Synthesis
  body : ItemBody
  feedback : List FeedbackBlock
  /-- The names of the assets it embeds, each once. -/
  assets : List String
  answerKey : Option Response

/-- The interaction of an item; text has none. -/
def Item.interaction? (item : Item) : Option Interaction :=
  match item.body with
  | .question _ interaction => some interaction
  | .text _ _ => none

def Item.interactionKinds (item : Item) : List InteractionKind :=
  item.interaction?.toList.map Interaction.kind

def Item.isText (item : Item) : Bool :=
  item.interaction?.isNone

def Item.choices (item : Item) : List SimpleChoice :=
  item.interaction?.toList.flatMap Interaction.choices

def Item.variables (item : Item) : List Identifier :=
  item.synthesis.declarations.identifiers

def Item.references (item : Item) : List Identifier :=
  Text.ascending (item.identifier :: item.variables ++
    item.choices.map SimpleChoice.identifier ++
    item.feedback.flatMap fun block => [block.identifier, block.outcome])

/-- Whether the response of an interaction is not the one declared. -/
def Item.undeclaredResponse? (item : Item) : Option Identifier :=
  let declared := item.synthesis.declarations.response.map ResponseDeclaration.identifier
  (item.interaction?.map Interaction.response).filter fun response => declared != some response

/-- What does not fit together in an item: its response, a variable of its rules, or the outcome of
a feedback block is not declared. -/
def Item.fault? (item : Item) : Option IntegrityFault :=
  let undeclared (name : Identifier) : Bool := !item.variables.contains name
  match item.undeclaredResponse? with
  | some response => some (.undeclaredResponse item.identifier response)
  | none =>
      match item.synthesis.variables.find? undeclared with
      | some name => some (.undeclaredVariable item.identifier name)
      | none =>
          (item.feedback.find? fun block => undeclared block.outcome).map fun block =>
            .undeclaredOutcome item.identifier block.identifier

end QuizPackage
