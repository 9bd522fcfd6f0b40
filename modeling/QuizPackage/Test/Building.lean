import QuizPackage.Identifier.Registry
import QuizPackage.Quiz
import QuizPackage.Test

namespace QuizPackage

def rootSectionTitle : String := "Questions"

def builtItem (entity : Entity) : Issuing ItemReference := fun registry =>
  match registry.lookup entity with
  | some identifier => .ok (.to identifier) registry
  | none => .error (.integrity (.missingItem entity)) registry

/-- Whether a group has as many members as it picks, and picks any. -/
def Group.isSelectable (pool : Group) : Bool :=
  pool.pick != 0 && pool.pick ≤ pool.questions.length

/-- The section of a group. A group without a title is called by its place in the quiz. -/
def buildGroup (pool : Group) (entry : Nat) : Issuing GroupSection := do
  let members := pool.questions.length
  if !pool.isSelectable then
    Issuing.stop (.invalidGroup (.top entry) pool.pick members)
  let identifier ← issueFor (.group entry) .testSection pool.title
  let items ← (List.range members).mapM fun member =>
    builtItem (.question (.inGroup entry member))
  return {
    identifier := identifier
    title := (Text.present? pool.title).getD s!"Group {entry + 1}"
    select := pool.pick
    shuffle := true
    items := items }

def buildPart (entry : Entry) (index : Nat) : Issuing SectionPart :=
  match entry with
  | .question _ => .item <$> builtItem (.question (.top index))
  | .text _ => .item <$> builtItem (.text index)
  | .group pool => .group <$> buildGroup pool index

def buildTest (quiz : Quiz) : Issuing Test := do
  let identifier ← issueFor .test .test (some quiz.title)
  let score ← issueVariable identifier "SCORE"
  let part ← issueFor .testPart .testPart none
  let rootSection ← issueFor .rootSection .testSection (some "main_section")
  let parts ← quiz.entries.zipIdx.mapM fun (entry, index) => buildPart entry index
  return {
    identifier := identifier
    title := quiz.title
    score := score
    part := part
    navigation := .linear
    submission := .individual
    session := .standard
    rootSection := rootSection
    rootTitle := rootSectionTitle
    parts := parts }

end QuizPackage
