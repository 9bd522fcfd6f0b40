import QuizPackage.Proofs.Number.Order
import QuizPackage.Quiz.Validity

namespace QuizPackage

/-- An accepted number whose tolerance is not below zero, and whose bounds are finite and in
order. -/
structure NumericAnswer.Proper (answer : NumericAnswer) : Prop where
  tolerance : ∀ value tolerance, answer = .exact value tolerance → ¬tolerance < 0.0
  leastFinite : answer.least.isFinite = true
  greatestFinite : answer.greatest.isFinite = true
  ordered : answer.least ≤ answer.greatest

/-- Answer data from which the correct responses can be told. -/
def QuestionKind.Decisive : QuestionKind → Prop
  | .singleChoice choices | .trueFalse choices =>
      choices ≠ [] ∧ choices.countP Choice.correct = 1
  | .multipleAnswer choices => choices ≠ [] ∧ ∃ choice ∈ choices, choice.correct = true
  | .shortAnswer answers => ∃ answer ∈ answers, Text.trim answer ≠ ""
  | .numerical answers => answers ≠ [] ∧ ∀ answer ∈ answers, answer.Proper
  | .essay | .fileUpload => True

/-- A question with finite points that are not negative, and with decisive answer data. -/
structure Question.Scorable (question : Question) : Prop where
  finite : question.points.isFinite = true
  nonnegative : 0.0 ≤ question.points
  decisive : question.kind.Decisive

/-- What keeps a question from being scored: its points come before its answer data. -/
def Question.fault? (question : Question) : Option QuestionFault :=
  pointsFault? question.points <|> question.kind.fault?

theorem isFinite_zero : (0.0 : Float).isFinite = true := by
  decide +kernel

theorem pointsFault?_eq_none_iff {points : Float} :
    pointsFault? points = none ↔ points.isFinite = true ∧ 0.0 ≤ points := by
  by_cases finite : points.isFinite = true
  · rw [Number.le_iff_not_lt isFinite_zero finite]
    simp [pointsFault?, finite]
  · simp [pointsFault?, finite]

theorem NumericAnswer.negativeTolerance?_eq_none_iff {answer : NumericAnswer} :
    answer.negativeTolerance? = none ↔
      ∀ value tolerance, answer = .exact value tolerance → ¬tolerance < 0.0 := by
  cases answer with
  | range least greatest => simp [NumericAnswer.negativeTolerance?]
  | exact value tolerance =>
      simp only [NumericAnswer.negativeTolerance?, NumericAnswer.exact.injEq]
      constructor
      · rintro fine _ _ ⟨rfl, rfl⟩ negative
        simp [negative] at fine
      · intro fine
        rw [if_neg (fine value tolerance ⟨rfl, rfl⟩)]

theorem NumericAnswer.fault?_eq_none_iff {answer : NumericAnswer} :
    answer.fault? = none ↔ answer.Proper := by
  unfold NumericAnswer.fault?
  constructor
  · intro fine
    split at fine
    · cases fine
    · rename_i tolerated
      by_cases bounded : answer.least.isFinite = true ∧ answer.greatest.isFinite = true
      · obtain ⟨least, greatest⟩ := bounded
        refine ⟨NumericAnswer.negativeTolerance?_eq_none_iff.mp tolerated, least, greatest, ?_⟩
        rw [Number.le_iff_not_lt least greatest]
        intro empty
        simp [least, greatest, empty] at fine
      · have unbounded : (!answer.least.isFinite || !answer.greatest.isFinite) = true := by
          simpa [Decidable.or_iff_not_imp_left, ← Bool.not_eq_true] using bounded
        simp [unbounded] at fine
  · intro proper
    have inOrder := (Number.le_iff_not_lt proper.leastFinite proper.greatestFinite).mp
      proper.ordered
    simp [NumericAnswer.negativeTolerance?_eq_none_iff.mpr proper.tolerance, proper.leastFinite,
      proper.greatestFinite, inOrder]

theorem singleChoiceFault?_eq_none_iff {choices : List Choice} :
    singleChoiceFault? choices = none ↔ choices ≠ [] ∧ choices.countP Choice.correct = 1 := by
  rw [List.countP_eq_length_filter]
  unfold singleChoiceFault?
  split
  · simp
  · rename_i noneCorrect
    simp [noneCorrect]
  · rename_i choice nonempty one
    simpa [one] using nonempty
  · rename_i notOne
    constructor
    · intro impossible
      cases impossible
    · rintro ⟨_, single⟩
      obtain ⟨choice, only⟩ := List.length_eq_one_iff.mp single
      exact absurd only (notOne choice)

theorem multipleAnswerFault?_eq_none_iff {choices : List Choice} :
    multipleAnswerFault? choices = none ↔
      choices ≠ [] ∧ ∃ choice ∈ choices, choice.correct = true := by
  have anyCorrect : choices.filter Choice.correct ≠ [] ↔ ∃ choice ∈ choices, choice.correct = true := by
    simp [List.filter_eq_nil_iff]
  rw [← anyCorrect]
  unfold multipleAnswerFault?
  split
  · simp
  · rename_i noneCorrect
    simp [noneCorrect]
  · rename_i nonempty correct
    exact ⟨fun _ => ⟨nonempty, correct⟩, fun _ => rfl⟩

theorem acceptedTexts_ne_nil_iff {answers : List String} :
    acceptedTexts answers ≠ [] ↔ ∃ answer ∈ answers, Text.trim answer ≠ "" := by
  simp [acceptedTexts, List.filter_eq_nil_iff]

theorem QuestionKind.fault?_eq_none_iff {kind : QuestionKind} :
    kind.fault? = none ↔ kind.Decisive := by
  cases kind with
  | singleChoice choices | trueFalse choices => exact singleChoiceFault?_eq_none_iff
  | multipleAnswer choices => exact multipleAnswerFault?_eq_none_iff
  | shortAnswer answers =>
      simp only [QuestionKind.fault?, QuestionKind.Decisive, ← acceptedTexts_ne_nil_iff]
      split <;> simp_all
  | numerical answers =>
      cases answers with
      | nil => simp [QuestionKind.fault?, QuestionKind.Decisive]
      | cons answer rest =>
          simp only [QuestionKind.fault?, QuestionKind.Decisive, List.findSome?_eq_none_iff,
            NumericAnswer.fault?_eq_none_iff]
          simp
  | essay | fileUpload => exact ⟨fun _ => trivial, fun _ => rfl⟩

/-- No fault is found in a question exactly if it can be scored. -/
theorem Question.fault?_eq_none_iff {question : Question} :
    question.fault? = none ↔ question.Scorable := by
  have both : question.fault? = none ↔
      pointsFault? question.points = none ∧ question.kind.fault? = none := by
    unfold Question.fault?
    cases pointsFault? question.points <;> simp
  rw [both, pointsFault?_eq_none_iff, QuestionKind.fault?_eq_none_iff]
  constructor
  · rintro ⟨⟨finite, nonnegative⟩, decisive⟩
    exact ⟨finite, nonnegative, decisive⟩
  · rintro ⟨finite, nonnegative, decisive⟩
    exact ⟨⟨finite, nonnegative⟩, decisive⟩

end QuizPackage
