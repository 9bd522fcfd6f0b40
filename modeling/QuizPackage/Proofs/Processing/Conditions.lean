import QuizPackage.Proofs.Processing.Scoring
import QuizPackage.Proofs.Quiz.Validity
import QuizPackage.Proofs.Text.Ascending

namespace QuizPackage

variable {progress : Progress} {response identifier : Identifier} {choice : Choice}
  {choices : List Choice} {identifiers : List Identifier} {kind : QuestionKind}
  {issued : ItemIdentifiers} {question : Question}

theorem EvaluatedValue.scalars_ofScalars (scalars : List Scalar) :
    (EvaluatedValue.ofScalars scalars).scalars = scalars := by
  cases scalars <;> rfl

theorem allHold_iff {operands : List Expr} :
    allHold progress operands = true ↔
      ∀ operand ∈ operands, (operand.eval progress).holds = true := by
  induction operands with
  | nil => simp [allHold]
  | cons operand rest ih => simp [allHold, ih]

theorem anyHolds_iff {operands : List Expr} :
    anyHolds progress operands = true ↔
      ∃ operand ∈ operands, (operand.eval progress).holds = true := by
  induction operands with
  | nil => simp [anyHolds]
  | cons operand rest ih => simp [anyHolds, ih]

/-- If each operand of a disjunction tests one value, which may be missing, so does the whole. -/
theorem anyHolds_map_iff {α β : Type} {operands : List α} {test : α → Expr} {value : Option β}
    {accepts : α → β → Prop}
    (tests : ∀ operand ∈ operands, ((test operand).eval progress).holds = true ↔
      ∃ found, value = some found ∧ accepts operand found) :
    ((Expr.any (operands.map test)).eval progress).holds = true ↔
      ∃ found, value = some found ∧ ∃ operand ∈ operands, accepts operand found := by
  rw [Expr.eval, EvaluatedValue.holds_truth, anyHolds_iff]
  constructor
  · intro ⟨expression, member, holds⟩
    obtain ⟨operand, listed, rfl⟩ := List.mem_map.mp member
    obtain ⟨found, present, accepted⟩ := (tests operand listed).mp holds
    exact ⟨found, present, operand, listed, accepted⟩
  · intro ⟨found, present, operand, listed, accepted⟩
    exact ⟨_, List.mem_map_of_mem listed, (tests operand listed).mpr ⟨found, present, accepted⟩⟩

theorem Progress.value_response (read : progress.response = some response) :
    progress.value response = progress.candidate := by
  simp [Progress.value, read]

/-- A choice is taken alone by the value that is its identifier. -/
theorem isChoice_holds (read : progress.response = some response) :
    ((isChoice response identifier).eval progress).holds = true ↔
      progress.candidate = .single (.text identifier.text) := by
  simp only [isChoice, Expr.eval, Expr.identifier, literalValue, EvaluatedValue.holds_truth,
    Progress.value_response read]
  cases progress.candidate with
  | null => simp [EvaluatedValue.matching]
  | container scalars => simp [EvaluatedValue.matching]
  | single scalar => cases scalar <;> simp [EvaluatedValue.matching, Scalar.same]

/-- A choice is taken with others by a value that holds its identifier. -/
theorem hasChoice_holds (read : progress.response = some response) :
    ((hasChoice response identifier).eval progress).holds = true ↔
      .text identifier.text ∈ progress.candidate.scalars := by
  have same (scalar : Scalar) :
      scalar.same (.text identifier.text) = true ↔ scalar = .text identifier.text := by
    cases scalar <;> simp [Scalar.same]
  simp only [hasChoice, Expr.eval, Expr.identifier, literalValue, EvaluatedValue.holds_truth,
    Progress.value_response read, EvaluatedValue.memberOf]
  simp only [EvaluatedValue.scalars, List.any_eq_true, same, exists_eq_right]

/-- A value is accepted as a text if the small letters of the first text in it are those of the
text. -/
theorem isText_holds {answer : String} (read : progress.response = some response) :
    ((isText response answer).eval progress).holds = true ↔
      ∃ scalar, progress.candidate.scalars.head? = some scalar ∧
        Text.lower answer = Text.lower scalar.written := by
  have literal : (EvaluatedValue.single (.text answer)).scalars = [.text answer] := rfl
  simp only [isText, Expr.eval, Expr.text, literalValue, EvaluatedValue.holds_truth,
    Progress.value_response read, EvaluatedValue.sameText, literal]
  cases progress.candidate.scalars with
  | nil => simp
  | cons first rest =>
      simp only [Bool.false_eq_true, if_false, beq_iff_eq, List.head?_cons, Option.some.injEq,
        exists_eq_left']
      exact eq_comm

/-- A value is within an accepted number if it is read as a number between the bounds, once their
literals are read as what they are written for. -/
theorem isWithin_holds {answer : NumericAnswer} (read : progress.response = some response)
    (least : Number.read? (Number.literal answer.least) = some answer.least)
    (greatest : Number.read? (Number.literal answer.greatest) = some answer.greatest) :
    ((isWithin response answer).eval progress).holds = true ↔
      ∃ number, progress.candidate.number? = some number ∧
        answer.least ≤ number ∧ number ≤ answer.greatest := by
  have literal (number : Float) :
      (EvaluatedValue.single (.number number)).number? = some number := rfl
  simp only [isWithin, Expr.eval, allHold, Expr.number, literalValue, EvaluatedValue.holds_truth,
    Progress.value_response read, least, greatest, EvaluatedValue.compare, literal, Bool.and_true]
  cases progress.candidate.number? <;> simp

theorem Response.number?_number (number : Float) :
    (Response.number number).value.number? = some number := rfl

theorem mem_scalars_identifiers {value : String} {values : List String} :
    .text value ∈ (Response.identifiers values).value.scalars ↔ value ∈ values := by
  simp [Response.value, EvaluatedValue.scalars_ofScalars, Text.mem_ascending]

theorem mem_correctChoices :
    identifier ∈ correctChoices choices identifiers ↔
      ∃ choice, (choice, identifier) ∈ choices.zip identifiers ∧ choice.correct = true := by
  simp [correctChoices]

theorem correctChoices_ne_nil (counted : identifiers.length = choices.length)
    (correct : ∃ choice ∈ choices, choice.correct = true) :
    correctChoices choices identifiers ≠ [] := by
  obtain ⟨choice, listed, right⟩ := correct
  have firsts : (choices.zip identifiers).map Prod.fst = choices :=
    List.map_fst_zip (Nat.le_of_eq counted.symm)
  rw [← firsts] at listed
  obtain ⟨⟨_, identifier⟩, paired, rfl⟩ := List.mem_map.mp listed
  exact List.ne_nil_of_mem (mem_correctChoices.mpr ⟨_, paired, right⟩)

/-- Where one choice is correct, one identifier is that of a correct choice. -/
theorem correctChoices_eq_singleton (counted : identifiers.length = choices.length)
    (one : choices.countP Choice.correct = 1) :
    ∃ identifier, correctChoices choices identifiers = [identifier] := by
  rw [← List.length_eq_one_iff, ← one]
  have firsts : (choices.zip identifiers).map Prod.fst = choices :=
    List.map_fst_zip (Nat.le_of_eq counted.symm)
  conv_rhs => rw [← firsts, List.countP_map]
  rw [correctChoices, List.length_map, List.countP_eq_length_filter]
  rfl

/-- Decisive answer data has a condition unless a person scores the responses. -/
theorem QuestionKind.condition?_isSome (decisive : kind.Decisive)
    (counted : issued.choices.length = kind.choices.length) :
    (kind.condition? issued).isSome = kind.autoScored := by
  cases kind with
  | singleChoice choices | trueFalse choices =>
      obtain ⟨identifier, only⟩ := correctChoices_eq_singleton counted decisive.2
      simp only [QuestionKind.choices] at only
      simp [QuestionKind.condition?, QuestionKind.autoScored, only]
  | multipleAnswer choices | shortAnswer answers | numerical answers => rfl
  | essay | fileUpload => rfl

theorem QuestionKind.choices_of_not_autoScored (byPerson : kind.autoScored = false) :
    kind.choices = [] := by
  cases kind with
  | singleChoice choices | trueFalse choices | multipleAnswer choices => cases byPerson
  | shortAnswer answers | numerical answers => cases byPerson
  | essay | fileUpload => rfl

/-- The condition of the first rule, which is the one that scores a response. -/
def Synthesis.condition? (synthesis : Synthesis) : Option Expr :=
  match synthesis.rules with
  | .condition (.mk condition _ :: _) _ :: _ => some condition
  | _ => none

/-- Whether a response meets the condition by which it is scored. -/
def Synthesis.isMet (synthesis : Synthesis) (response : Response) : Bool :=
  synthesis.condition?.any fun condition => (condition.eval (synthesis.start response)).holds

theorem ItemIdentifiers.shown_cases (issued : ItemIdentifiers) (block : Option Identifier) :
    issued.shown block = [] ∨ ∃ feedback value, issued.shown block = [.assign feedback value] := by
  unfold ItemIdentifiers.shown
  split
  · exact .inr ⟨_, _, rfl⟩
  · exact .inl rfl

theorem Question.feedbackRules_of_not_autoScored (byPerson : question.kind.autoScored = false)
    (counted : issued.choices.length = question.kind.choices.length) :
    question.feedbackRules issued = issued.shown issued.blocks.general := by
  rw [QuestionKind.choices_of_not_autoScored byPerson] at counted
  simp [Question.feedbackRules, List.length_eq_zero_iff.mp counted]

theorem Question.synthesis_condition? (decisive : question.kind.Decisive)
    (counted : issued.choices.length = question.kind.choices.length) :
    (question.synthesis issued).condition? = question.kind.condition? issued := by
  have present := QuestionKind.condition?_isSome decisive counted
  simp only [Synthesis.condition?, Question.synthesis, Question.rules_eq, Question.scoringRules]
  cases decided : question.kind.condition? issued with
  | some condition => rfl
  | none =>
      rw [decided] at present
      rw [Question.feedbackRules_of_not_autoScored present.symm counted]
      rcases issued.shown_cases issued.blocks.general with nothing | ⟨feedback, value, one⟩
      · rw [nothing]
        rfl
      · rw [one]
        rfl

theorem Question.isMet_of_not_autoScored (decisive : question.kind.Decisive)
    (counted : issued.choices.length = question.kind.choices.length)
    (byPerson : question.kind.autoScored = false) (response : Response) :
    (question.synthesis issued).isMet response = false := by
  have absent := QuestionKind.condition?_isSome decisive counted
  rw [byPerson, Option.isSome_eq_false_iff, Option.isNone_iff_eq_none] at absent
  rw [Synthesis.isMet, Question.synthesis_condition? decisive counted, absent, Option.any_none]

/-- A response that meets the condition earns all points, and any other earns none. -/
theorem Question.score_eq (decisive : question.kind.Decisive) (distinct : issued.variables.Nodup)
    (counted : issued.choices.length = question.kind.choices.length) (response : Response) :
    ((question.synthesis issued).score response).score =
      if (question.synthesis issued).isMet response then Number.reread question.points
      else 0.0 := by
  rw [Synthesis.isMet, Question.synthesis_condition? decisive counted]
  cases decided : question.kind.condition? issued with
  | some condition => exact Question.score_of_condition distinct decided response
  | none =>
      rw [Question.score_scoringRules distinct, Question.scoringRules, decided]
      simp only [runRules, start_score, Option.any_none, Bool.false_eq_true, if_false]

end QuizPackage
