import QuizPackage.Layout

namespace QuizPackage

inductive Navigation where
  | linear
  | nonlinear
deriving DecidableEq, Repr

def Navigation.name : Navigation → String
  | .linear => "linear"
  | .nonlinear => "nonlinear"

inductive Submission where
  | individual
  | simultaneous
deriving DecidableEq, Repr

def Submission.name : Submission → String
  | .individual => "individual"
  | .simultaneous => "simultaneous"

structure SessionControl where
  maxAttempts : Nat
  showFeedback : Bool
  showSolution : Bool
  allowComment : Bool
  allowSkipping : Bool
  validateResponses : Bool
deriving DecidableEq, Repr

/-- One attempt, after which feedback is shown. Items may be skipped. -/
def SessionControl.standard : SessionControl :=
  { maxAttempts := 1
    showFeedback := true
    showSolution := false
    allowComment := false
    allowSkipping := true
    validateResponses := false }

structure ItemReference where
  identifier : Identifier
  /-- Where the item lies, seen from the test. -/
  href : String
deriving DecidableEq, Repr

def ItemReference.to (identifier : Identifier) : ItemReference :=
  ⟨identifier, itemHref identifier⟩

/-- A section of which each attempt takes some items. -/
structure GroupSection where
  identifier : Identifier
  title : String
  select : Nat
  shuffle : Bool
  items : List ItemReference
deriving DecidableEq, Repr

inductive SectionPart where
  | item (reference : ItemReference)
  | group (pool : GroupSection)
deriving DecidableEq, Repr

/-- The test of a package. -/
structure Test where
  identifier : Identifier
  title : String
  score : Identifier
  part : Identifier
  navigation : Navigation
  submission : Submission
  session : SessionControl
  rootSection : Identifier
  rootTitle : String
  parts : List SectionPart
deriving DecidableEq, Repr

def SectionPart.items : SectionPart → List ItemReference
  | .item reference => [reference]
  | .group pool => pool.items

/-- The group of a part, if it is one. -/
def SectionPart.group? : SectionPart → Option GroupSection
  | .item _ => none
  | .group pool => some pool

def Test.items (test : Test) : List ItemReference :=
  test.parts.flatMap SectionPart.items

def Test.groups (test : Test) : List GroupSection :=
  test.parts.filterMap SectionPart.group?

def Test.references (test : Test) : List Identifier :=
  Text.ascending ([test.identifier, test.score, test.part, test.rootSection] ++
    test.groups.map GroupSection.identifier ++ test.items.map ItemReference.identifier)

end QuizPackage
