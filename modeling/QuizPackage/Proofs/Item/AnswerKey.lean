import QuizPackage.Proofs.Item.MultipleAnswer
import QuizPackage.Proofs.Quiz.Representative

namespace QuizPackage

variable {question : Question} {kind : QuestionKind} {issued : ItemIdentifiers}
  {location : Location} {registry after : Registry} {key : Response}

/-- The response that submits the values a declaration calls correct. -/
def ResponseDeclaration.submission? (declared : ResponseDeclaration) : Option Response :=
  match declared.cardinality, declared.baseType with
  | .multiple, _ => some (.identifiers declared.correct)
  | .single, .identifier => declared.correct.head?.map .identifier
  | .single, .text => declared.correct.head?.map .text
  | .single, .number => (declared.correct.head?.bind Number.read?).map .number
  | .single, .file => none

/-- The numbers that are written for a kind: the bounds of the accepted numbers, and their
representatives. -/
def QuestionKind.numbers : QuestionKind → List Float
  | .numerical answers =>
      answers.flatMap fun answer => [answer.least, answer.greatest, answer.representative]
  | _ => []

def Question.numbers (question : Question) : List Float :=
  question.points :: question.kind.numbers

/-- Whether finite numbers are read back from their literals. -/
def ReadBack (numbers : List Float) : Prop :=
  ∀ number ∈ numbers, number.isFinite = true →
    Number.read? (Number.literal number) = some number

theorem ReadBack.answer {answers : List NumericAnswer} {answer : NumericAnswer}
    (reads : ReadBack (QuestionKind.numerical answers).numbers) (listed : answer ∈ answers) :
    ReadBack [answer.least, answer.greatest, answer.representative] :=
  fun number member => reads number (List.mem_flatMap_of_mem listed member)

/-- Whether the answer key is finite: that of accepted numbers represents the first of them. -/
def QuestionKind.hasFiniteKey : QuestionKind → Bool
  | .numerical answers => answers.head?.all NumericAnswer.hasFiniteSpan
  | _ => true

theorem read_literal_infinity :
    Number.read? (Number.literal Number.infinity) = some Number.infinity := by
  decide +kernel

/-- Whatever a representative is, its literal is read as it. -/
theorem NumericAnswer.Proper.reads_representative {answer : NumericAnswer} (proper : answer.Proper)
    (reads : answer.representative.isFinite = true →
      Number.read? (Number.literal answer.representative) = some answer.representative) :
    Number.read? (Number.literal answer.representative) = some answer.representative := by
  cases spanned : answer.hasFiniteSpan with
  | true => exact reads (proper.representative_between spanned).1
  | false =>
      rw [proper.representative_infinite spanned]
      exact read_literal_infinity

/-- The values that the declaration of a response calls correct are those of the answer key. -/
theorem QuestionKind.declared_submission (decisive : kind.Decisive) (reads : ReadBack kind.numbers)
    (issued : ItemIdentifiers) :
    (kind.declaredResponse issued).submission? = kind.answerKey issued := by
  cases kind with
  | singleChoice choices | trueFalse choices =>
      simp only [ResponseDeclaration.submission?, QuestionKind.declaredResponse,
        QuestionKind.answerKey, List.head?_map, Option.map_map]
      rfl
  | multipleAnswer choices => rfl
  | shortAnswer answers =>
      simp only [ResponseDeclaration.submission?, QuestionKind.declaredResponse,
        QuestionKind.answerKey, List.head?_take]
      rfl
  | numerical answers =>
      obtain ⟨first, rest, rfl⟩ := List.exists_cons_of_ne_nil decisive.1
      have read := (decisive.2 first List.mem_cons_self).reads_representative
        (reads.answer List.mem_cons_self _ (by simp))
      simp only [ResponseDeclaration.submission?, QuestionKind.declaredResponse,
        QuestionKind.answerKey, List.take_succ_cons, List.map_cons, List.head?_cons,
        Option.bind_some, read, Option.map_some]
  | essay | fileUpload => rfl

/-- The condition of a question holds of its key exactly if the key is finite. -/
theorem QuestionKind.condition_answerKey {progress : Progress} {condition : Expr}
    (decisive : kind.Decisive) (distinct : issued.choices.Nodup)
    (counted : issued.choices.length = kind.choices.length) (reads : ReadBack kind.numbers)
    (stated : kind.answerKey issued = some key) (read : progress.response = some issued.response)
    (answered : progress.candidate = key.value)
    (decided : kind.condition? issued = some condition) :
    (condition.eval progress).holds = kind.hasFiniteKey := by
  cases kind with
  | singleChoice choices | trueFalse choices =>
      obtain ⟨identifier, only⟩ := correctChoices_eq_singleton counted decisive.2
      simp only [QuestionKind.choices] at only
      simp only [QuestionKind.condition?, QuestionKind.answerKey, only, List.head?_cons,
        Option.map_some, Option.some.injEq] at decided stated
      subst decided stated
      exact (isChoice_holds read).mpr answered
  | multipleAnswer choices =>
      cases decided
      cases stated
      exact (allRightlyTaken_holds read answered distinct counted (by
        intro value member
        obtain ⟨identifier, correct, rfl⟩ := List.mem_map.mp member
        obtain ⟨choice, paired, _⟩ := mem_correctChoices.mp correct
        exact List.mem_map_of_mem (List.of_mem_zip paired).2)).mpr fun _ => Iff.rfl
  | shortAnswer answers =>
      cases decided
      obtain ⟨text, first, rfl⟩ := Option.map_eq_some_iff.mp stated
      have accepted := List.mem_of_mem_head? first
      have filled : text ≠ "" := by
        simpa using (List.mem_filter.mp accepted).2
      rw [Response.value, if_neg (by simpa using filled)] at answered
      change _ = true
      rw [Expr.eval, EvaluatedValue.holds_truth, anyHolds_iff]
      refine ⟨_, List.mem_map_of_mem accepted, (isText_holds read).mpr ⟨.text text, ?_, rfl⟩⟩
      rw [answered]
      rfl
  | numerical answers =>
      obtain ⟨first, rest, rfl⟩ := List.exists_cons_of_ne_nil decisive.1
      cases decided
      cases stated
      have within (answer) (listed : answer ∈ first :: rest) :
          ((isWithin issued.response answer).eval progress).holds = true ↔
            answer.least ≤ first.representative ∧ first.representative ≤ answer.greatest := by
        have proper := decisive.2 answer listed
        have reads := reads.answer listed
        rw [isWithin_holds read (reads _ (by simp) proper.leastFinite)
          (reads _ (by simp) proper.greatestFinite), answered, Response.number?_number]
        simp
      have proper := decisive.2 first List.mem_cons_self
      rw [QuestionKind.hasFiniteKey, List.head?_cons, Option.all_some, Expr.eval,
        EvaluatedValue.holds_truth]
      cases spanned : first.hasFiniteSpan with
      | true =>
          refine anyHolds_iff.mpr ⟨_, List.mem_map_of_mem List.mem_cons_self, ?_⟩
          exact (within first List.mem_cons_self).mpr (proper.representative_between spanned).2
      | false =>
          rw [← Bool.not_eq_true, anyHolds_iff]
          rintro ⟨_, member, holds⟩
          obtain ⟨answer, listed, rfl⟩ := List.mem_map.mp member
          have below := ((within answer listed).mp holds).2
          rw [proper.representative_infinite spanned] at below
          exact Number.not_infinity_le (decisive.2 answer listed).greatestFinite below
  | essay | fileUpload => cases stated

theorem QuestionKind.autoScored_of_answerKey (stated : kind.answerKey issued = some key) :
    kind.autoScored = true := by
  cases kind with
  | essay | fileUpload => cases stated
  | _ => rfl

theorem Question.score_answerKey (decisive : question.kind.Decisive)
    (apart : issued.variables.Nodup) (distinct : issued.choices.Nodup)
    (counted : issued.choices.length = question.kind.choices.length)
    (finite : question.points.isFinite = true) (reads : ReadBack question.numbers)
    (stated : question.kind.answerKey issued = some key) :
    ((question.synthesis issued).score key).score =
      if question.kind.hasFiniteKey then question.points else 0.0 := by
  have award := Number.reread_of_read (reads _ List.mem_cons_self finite)
  cases decided : question.kind.condition? issued with
  | some condition =>
      have met := QuestionKind.condition_answerKey decisive distinct counted
        (fun number listed => reads number (List.mem_cons_of_mem _ listed)) stated
        (start_response question issued key) rfl decided
      rw [Question.score_of_condition apart decided key, met, award]
  | none =>
      have present := QuestionKind.condition?_isSome decisive counted
      rw [decided, QuestionKind.autoScored_of_answerKey stated] at present
      cases present

/-- The answer key of a question is the response that its declaration calls correct, and it earns
all points if it is finite. The representative of a range whose span is infinite is infinite, and
that earns nothing, as no accepted number is infinite. -/
theorem answer_key_earns_points_if_finite {identifiers : ItemIdentifiers} {synthesis : Synthesis}
    (reachable : registry.Reachable)
    (issued : issueItemIdentifiers question location registry = .ok identifiers after)
    (accepted : synthesize question identifiers location = .ok synthesis)
    (reads : ReadBack question.numbers)
    (stated : question.kind.answerKey identifiers = some key) :
    (∃ declared, synthesis.declarations.response = some declared ∧
      declared.submission? = some key) ∧
      (synthesis.score key).score =
        if question.kind.hasFiniteKey then question.points else 0.0 := by
  have bound := issueItemIdentifiers_ok issued
  have sound := ((issueItemIdentifiers_within question location).reaches issued).sound
    reachable.sound
  rw [synthesize_eq bound.choices_length] at accepted
  cases fault : question.fault? with
  | some problem =>
      rw [fault] at accepted
      cases accepted
  | none =>
      rw [fault] at accepted
      cases accepted
      have scorable := Question.fault?_eq_none_iff.mp fault
      have submitted := QuestionKind.declared_submission scorable.decisive
        (fun number listed => reads number (List.mem_cons_of_mem _ listed)) identifiers
      exact ⟨⟨_, rfl, submitted.trans stated⟩,
        Question.score_answerKey scorable.decisive bound.distinct (bound.choices_nodup sound)
          bound.choices_length scorable.finite reads stated⟩

def boiling : Question :=
  { title := some "Boiling"
    prompt := "<p>At how many degrees does water boil?</p>"
    points := 3.0
    kind := .numerical [.range 99.5 100.5, .exact 212.0 1.5]
    feedback := ⟨none, none, none⟩
    assets := [] }

theorem boiling_key_earns_points :
    ∃ identifiers after synthesis,
      issueItemIdentifiers boiling (.top 0) (Registry.empty "" false) = .ok identifiers after ∧
      synthesize boiling identifiers (.top 0) = .ok synthesis ∧
      (synthesis.score (.number (NumericAnswer.range 99.5 100.5).representative)).score = 3.0 := by
  obtain ⟨identifiers, after, issued, _⟩ :=
    issueItemIdentifiers_lenient boiling (.top 0) (Registry.empty "" false) rfl
  have fine : boiling.fault? = none := Option.isNone_iff_eq_none.mp (by decide +kernel)
  have accepted :
      synthesize boiling identifiers (.top 0) = .ok (boiling.synthesis identifiers) := by
    rw [synthesize_eq (issueItemIdentifiers_ok issued).choices_length, fine]
  have finite : boiling.kind.hasFiniteKey = true := by decide +kernel
  have earned := (answer_key_earns_points_if_finite ⟨"", false, .refl _⟩ issued accepted
    (by unfold ReadBack; decide +kernel) rfl).2
  exact ⟨identifiers, after, _, issued, accepted, earned.trans (if_pos finite)⟩

/-- The characters of a number that is not modest, with its sign. -/
def Number.displayed (number : Float) : List Char :=
  let body :=
    if number.isInf then "inf".toList
    else if (magnitude number).units == 0 then ['0']
    else ((magnitude number).shortest .upper).plain
  if negative number then '-' :: body else body

def Number.readSigned? : List Char → Option Float
  | '-' :: digits => (readUnsigned? digits).map fun number => -number
  | '+' :: digits => readUnsigned? digits
  | digits => readUnsigned? digits

/-- Literals of several hundred digits are read without being made texts in between. -/
theorem Number.read_literal {number : Float} (named : number.isNaN = false)
    (large : isModestWhole number = false)
    (reads : readSigned? (displayed number) = some number) :
    read? (literal number) = some number := by
  have written : literal number = String.ofList (displayed number) := by
    simp only [literal, large, display, signed, named, Bool.false_eq_true, if_false]
    rfl
  rw [← reads, written, read?, String.toList_ofList]
  rfl

/-- A range whose bounds are too far apart for the span to be finite. -/
def widest : NumericAnswer :=
  .range (-1.7e308) 1.7e308

def anyNumber : Question :=
  { title := none
    prompt := "<p>Name a number.</p>"
    points := 1.0
    kind := .numerical [widest]
    feedback := ⟨none, none, none⟩
    assets := [] }

theorem anyNumber_key_earns_nothing :
    ReadBack anyNumber.numbers ∧ ∃ identifiers after synthesis key,
      issueItemIdentifiers anyNumber (.top 0) (Registry.empty "" false) = .ok identifiers after ∧
      synthesize anyNumber identifiers (.top 0) = .ok synthesis ∧
      anyNumber.kind.answerKey identifiers = some key ∧
      (synthesis.score key).score = 0.0 ∧ (synthesis.score key).score ≠ anyNumber.points := by
  obtain ⟨identifiers, after, issued, _⟩ :=
    issueItemIdentifiers_lenient anyNumber (.top 0) (Registry.empty "" false) rfl
  have bound := issueItemIdentifiers_ok issued
  have fine : anyNumber.fault? = none := Option.isNone_iff_eq_none.mp (by decide +kernel)
  have scorable := Question.fault?_eq_none_iff.mp fine
  have accepted :
      synthesize anyNumber identifiers (.top 0) = .ok (anyNumber.synthesis identifiers) := by
    rw [synthesize_eq bound.choices_length, fine]
  have infinite : widest.hasFiniteSpan = false := by decide +kernel
  have unbounded : anyNumber.kind.hasFiniteKey = false := by
    rw [anyNumber, QuestionKind.hasFiniteKey, List.head?_cons, Option.all_some, infinite]
  have representative :=
    (scorable.decisive.2 widest List.mem_cons_self).representative_infinite infinite
  have reads : ReadBack anyNumber.numbers := by
    intro number listed _
    simp only [Question.numbers, anyNumber, QuestionKind.numbers, List.flatMap_cons,
      List.flatMap_nil, List.append_nil, List.mem_cons, List.not_mem_nil, or_false] at listed
    obtain rfl | rfl | rfl | rfl := listed
    · decide +kernel
    · exact Number.read_literal (by decide +kernel) (by decide +kernel) (by decide +kernel)
    · exact Number.read_literal (by decide +kernel) (by decide +kernel) (by decide +kernel)
    · rw [representative]
      exact read_literal_infinity
  have choiceless : identifiers.choices = [] := List.length_eq_zero_iff.mp bound.choices_length
  have earned := Question.score_answerKey scorable.decisive bound.distinct
    (choiceless ▸ List.nodup_nil) bound.choices_length scorable.finite reads rfl
  rw [unbounded] at earned
  refine ⟨reads, identifiers, after, _, _, issued, accepted, rfl, earned, ?_⟩
  rw [earned]
  decide +kernel

end QuizPackage
