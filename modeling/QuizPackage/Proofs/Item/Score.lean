import QuizPackage.Proofs.Package.Pieces
import QuizPackage.Proofs.Processing.Conditions

namespace QuizPackage

variable {question : Question} {identifiers : ItemIdentifiers} {response : Response}
  {shuffle : Bool} {registry after : Registry} {piece : Piece} {item : Item}

/-- The points of a piece; text has none. -/
def Piece.points : Piece → Float
  | .question _ single => single.points
  | .text _ _ => 0.0

/-- Whether a person scores the responses to a piece. -/
def Piece.isHumanScored : Piece → Bool
  | .question _ single => !single.kind.autoScored
  | .text _ _ => false

/-- Whether an outcome of an item is left to a person. -/
def Item.isHumanScored (item : Item) : Bool :=
  item.synthesis.declarations.outcomes.any OutcomeDeclaration.humanScored

theorem Piece.BuiltAs.points (built : piece.BuiltAs registry shuffle item) :
    item.points = piece.points := by
  cases built <;> rfl

theorem Piece.BuiltAs.isHumanScored (built : piece.BuiltAs registry shuffle item) :
    item.isHumanScored = piece.isHumanScored := by
  cases built with
  | @question location single identifiers bound =>
      have unscored : (identifiers.feedback.toList.map feedbackOutcome).any
          OutcomeDeclaration.humanScored = false := by
        cases identifiers.feedback <;> rfl
      simp [Item.isHumanScored, Question.item, Question.synthesis, Question.outcomes,
        scoreOutcome, unscored, Piece.isHumanScored]
  | text bound owned => rfl

theorem Question.scoringRules_length (question : Question) (identifiers : ItemIdentifiers) :
    (question.scoringRules identifiers).length ≤ 1 := by
  unfold Question.scoringRules
  split
  · exact Nat.zero_le 1
  · exact Nat.le_refl 1

/-- Whatever follows the first rule of a question is on feedback. -/
theorem Question.rules_after_first {front back : List Rule}
    (split : question.rules identifiers = front ++ back) (begun : front ≠ []) :
    back ⊆ question.feedbackRules identifiers := by
  have atMostOne := question.scoringRules_length identifiers
  have some := List.length_pos_iff.mpr begun
  have lengths := congrArg List.length split
  rw [Question.rules_eq] at split lengths
  simp only [List.length_append] at lengths
  have tail : back <:+ question.scoringRules identifiers ++ question.feedbackRules identifiers :=
    split ▸ List.suffix_append front back
  exact (List.suffix_of_suffix_length_le tail (List.suffix_append _ _) (by omega)).subset

/-- Once the first rule has run, the score is what it is when all rules have. -/
theorem Question.score_after_first (distinct : identifiers.variables.Nodup)
    {front back : List Rule} (split : question.rules identifiers = front ++ back)
    (begun : front ≠ []) (response : Response) :
    (runRules front ((question.synthesis identifiers).start response)).score =
      ((question.synthesis identifiers).score response).score := by
  have whole : ((question.synthesis identifiers).score response).score =
      (runRules (front ++ back) ((question.synthesis identifiers).start response)).score :=
    split ▸ rfl
  rw [whole, runRules_append]
  exact (runRules_score_of_feedbackRules distinct (runRules_frame front _).scoreName
    (Question.rules_after_first split begun)).symm

theorem TextRegion.score_eq (region : TextRegion) (identifier score : Identifier)
    (response : Response) :
    ((region.item identifier score).synthesis.score response).score = 0.0 := by
  have written : ((region.item identifier score).synthesis.declarations.outcome? .score).bind
      OutcomeDeclaration.defaultValue = some (Number.literal 0.0) := rfl
  rw [Synthesis.score, show (region.item identifier score).synthesis.rules = [] from rfl, runRules,
    Synthesis.start]
  simp only [Declarations.startingScore_eq_zero written]

/-- Whatever the response, an item earns all of its points if the condition is met, and nothing
otherwise. Text and what a person scores earn nothing, and no rule but the first has a say. -/
theorem built_piece_earns_points_or_nothing
    (ran : buildPiece shuffle piece registry = .ok item after)
    (reads : Number.read? (Number.literal piece.points) = some piece.points)
    (response : Response) :
    let earned := (item.synthesis.score response).score
    item.points = piece.points ∧ item.isHumanScored = piece.isHumanScored ∧
      earned = (if item.synthesis.isMet response then piece.points else 0.0) ∧
      (item.isHumanScored = true ∨ item.isText = true → earned = 0.0) ∧
      ∀ front back, item.synthesis.rules = front ++ back → front ≠ [] →
        (runRules front (item.synthesis.start response)).score = earned := by
  obtain ⟨fine, built⟩ := buildPiece_ok ran
  refine ⟨built.points, built.isHumanScored, ?_⟩
  rw [built.isHumanScored]
  cases built with
  | @question location single identifiers bound =>
      have decisive := (Question.problem?_eq_none_iff.mp fine).1.decisive
      have award : Number.reread single.points = single.points := Number.reread_of_read reads
      have score := Question.score_eq decisive bound.distinct bound.choices_length response
      rw [award] at score
      refine ⟨score, ?_, fun front back split begun =>
        Question.score_after_first bound.distinct split begun response⟩
      rintro (byPerson | isText)
      · have unmet := Question.isMet_of_not_autoScored decisive bound.choices_length
          (by simpa [Piece.isHumanScored] using byPerson) response
        exact score.trans (by simp [unmet])
      · cases isText
  | @text entry region identifier score bound owned =>
      have nothing := region.score_eq identifier score response
      refine ⟨nothing, fun _ => nothing, fun front back split begun => ?_⟩
      exact absurd (List.append_eq_nil_iff.mp split.symm).1 begun

def tides : Question :=
  { title := none
    prompt := "<p>The moon raises the tides.</p>"
    points := 1.5
    kind := .statement true
    feedback := ⟨none, some "Yes", some "Once more"⟩
    assets := [] }

theorem tides_earn_points_or_nothing :
    ∃ item after, buildPiece true (.question (.top 0) tides) (Registry.empty "" false) =
        .ok item after ∧
      (item.synthesis.score (.text "choice")).score = 1.5 ∧
      (item.synthesis.score (.identifiers ["choice"])).score = 0.0 := by
  have fine : (Piece.question (.top 0) tides).problem? = none :=
    Option.isNone_iff_eq_none.mp (by decide +kernel)
  have lenient : (Registry.empty "" false).strict = false := rfl
  obtain ⟨item, after, ran⟩ := Issuing.verdict_eq_none.mp
    ((buildPiece_verdict lenient true (.question (.top 0) tides)).trans fine)
  have decided : (match buildPiece true (.question (.top 0) tides) (Registry.empty "" false) with
      | .ok item _ =>
          (item.synthesis.isMet (.text "choice"), item.synthesis.isMet (.identifiers ["choice"]))
      | .error _ _ => (false, false)) = (true, false) := by
    decide +kernel
  rw [ran] at decided
  obtain ⟨right, wrong⟩ := Prod.mk.inj decided
  have earned := built_piece_earns_points_or_nothing ran (by decide +kernel)
  refine ⟨item, after, ran, ?_, ?_⟩
  · exact (earned _).2.2.1.trans (if_pos right)
  · exact (earned _).2.2.1.trans (if_neg (by simp [wrong]))

end QuizPackage
