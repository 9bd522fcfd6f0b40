import QuizPackage.Quiz

namespace QuizPackage

/-- Weaknesses of a quiz that do not stop a package from being built. -/
inductive Concern where
  | emptyTitle
  | idleSelection (pick : Nat)
  | repeatedTitle (title : String)
  | emptyPrompt
  | worthless
deriving DecidableEq, Repr

/-- A warning and the entry it concerns, if it concerns one. -/
structure Warning where
  location : Option Location
  concern : Concern
deriving DecidableEq, Repr

def Concern.message : Concern → String
  | .emptyTitle => "quiz title is empty"
  | .idleSelection pick => s!"group picks all {pick} of its questions; selection has no effect"
  | .repeatedTitle title => s!"duplicate question title: {title}"
  | .emptyPrompt => "prompt is empty"
  | .worthless => "question is worth zero points"

/-- Groups whose selection takes every member. -/
def idleSelections (quiz : Quiz) : List Warning :=
  quiz.entries.zipIdx.filterMap fun (entry, index) =>
    match entry with
    | .group pool =>
        if pool.pick == pool.questions.length && 0 < pool.pick then
          some ⟨some (.top index), .idleSelection pool.pick⟩
        else
          none
    | _ => none

/-- The trimmed title of a question, unless nothing is left of it. -/
def Question.plainTitle? (question : Question) : Option String :=
  (Text.present? question.title).map Text.trim

/-- Questions whose trimmed title an earlier question bears. `seen` holds the titles so far. -/
def repeatedTitles (seen : List String) : List (Location × Question) → List Warning
  | [] => []
  | (location, question) :: rest =>
      match question.plainTitle? with
      | none => repeatedTitles seen rest
      | some title =>
          if seen.contains title then
            ⟨some location, .repeatedTitle title⟩ :: repeatedTitles seen rest
          else
            repeatedTitles (title :: seen) rest

/-- The warnings on a quiz: on its title, its groups, and then on its questions, one concern after
the other. -/
def Quiz.warnings (quiz : Quiz) : List Warning :=
  let questions := quiz.questionsAt
  let onTitle := if Text.blank quiz.title then [⟨none, .emptyTitle⟩] else []
  let unprompted := questions.filter fun (_, question) => Text.blank question.prompt
  let unscored := questions.filter fun (_, question) => question.points == 0.0
  onTitle ++ idleSelections quiz ++ repeatedTitles [] questions ++
    unprompted.map (fun (location, _) => ⟨some location, .emptyPrompt⟩) ++
    unscored.map (fun (location, _) => ⟨some location, .worthless⟩)

end QuizPackage
