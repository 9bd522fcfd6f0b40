import QuizPackage.Proofs.Item.Building
import QuizPackage.Proofs.Processing.Conditions

namespace QuizPackage

variable {issued : ItemIdentifiers} {question : Question} {kind : QuestionKind}
  {response : Response} {progress : Progress} {choice : Identifier} {block : Option Identifier}
  {first second : List Rule} {blocks others : List Identifier} {location : Location}
  {registry : Registry}

/-- Whether a response selects a choice. Only questions with several answers take a selection of
several. -/
def Response.selects (response : Response) (kind : QuestionKind) (choice : Identifier) : Bool :=
  match response with
  | .identifier value | .text value => value == choice.text
  | .identifiers values => kind.selectsSeveral && values.contains choice.text
  | .number _ | .empty => false

/-- The variables of a progress are those issued for an item, and a response is in. -/
structure Progress.Serves (progress : Progress) (issued : ItemIdentifiers) (response : Response) :
    Prop where
  candidate : progress.candidate = response.value
  response : progress.response = some issued.response
  scoreName : progress.scoreName = some issued.score
  feedbackName : progress.feedbackName = issued.feedback

/-- Whatever is shown before, rules add these blocks to it. -/
def ItemIdentifiers.Shows (issued : ItemIdentifiers) (response : Response) (rules : List Rule)
    (blocks : List Identifier) : Prop :=
  ∀ progress : Progress, progress.Serves issued response →
    (runRules rules progress).feedback = progress.feedback ++ blocks.map Identifier.text

theorem start_serves (question : Question) (issued : ItemIdentifiers) (response : Response) :
    ((question.synthesis issued).start response).Serves issued response where
  candidate := rfl
  response := start_response question issued response
  scoreName := start_scoreName question issued response
  feedbackName := by
    simp only [Synthesis.start, Question.synthesis, Question.outcomes, Declarations.outcome?]
    cases issued.feedback <;> rfl

theorem Progress.Serves.runRules (serves : progress.Serves issued response) (rules : List Rule) :
    (runRules rules progress).Serves issued response where
  candidate := (runRules_frame rules progress).candidate.trans serves.candidate
  response := (runRules_frame rules progress).response.trans serves.response
  scoreName := (runRules_frame rules progress).scoreName.trans serves.scoreName
  feedbackName := (runRules_frame rules progress).feedbackName.trans serves.feedbackName

theorem ItemIdentifiers.Shows.nil : issued.Shows response [] [] := by
  intro progress serves
  rw [QuizPackage.runRules, List.map_nil, List.append_nil]

theorem ItemIdentifiers.Shows.append (one : issued.Shows response first blocks)
    (two : issued.Shows response second others) :
    issued.Shows response (first ++ second) (blocks ++ others) := by
  intro progress serves
  rw [runRules_append, two _ (serves.runRules first), one progress serves, List.map_append,
    List.append_assoc]

/-- Blocks are shown where there is an outcome to hold them. -/
theorem ItemIdentifiers.shows_shown (distinct : issued.variables.Nodup)
    (held : block.isSome = true → issued.feedback.isSome = true) :
    issued.Shows response (issued.shown block) block.toList := by
  intro progress serves
  cases block with
  | none =>
      have nothing : issued.shown none = [] := by
        unfold ItemIdentifiers.shown
        split <;> simp_all
      rw [nothing]
      exact ItemIdentifiers.Shows.nil progress serves
  | some block =>
      obtain ⟨feedback, present⟩ := Option.isSome_iff_exists.mp (held rfl)
      have notResponse : issued.response ≠ feedback := by
        rintro rfl
        exact (List.nodup_cons.mp distinct).1 (by simp [present])
      have notScore : issued.score ≠ feedback := by
        rintro rfl
        exact (List.nodup_cons.mp (List.nodup_cons.mp distinct).2).1 (by simp [present])
      have known : progress.value feedback = .ofScalars (progress.feedback.map Scalar.text) := by
        simp [Progress.value, serves.response, serves.scoreName, serves.feedbackName, present,
          notResponse, notScore]
      have added : (Expr.multiple [.read feedback, .identifier block]).eval progress =
          .ofScalars (progress.feedback.map Scalar.text ++ [.text block.text]) := by
        simp only [Expr.eval, scalarsOfAll, known, EvaluatedValue.scalars_ofScalars,
          Expr.identifier, literalValue]
        rfl
      simp [ItemIdentifiers.shown, present, QuizPackage.runRules, Rule.run, Progress.assign,
        serves.scoreName, serves.feedbackName, notScore, added, EvaluatedValue.scalars_ofScalars,
        Scalar.written, Function.comp_def]

/-- Assigning the score before a block is shown makes no difference to the feedback. -/
theorem ItemIdentifiers.shows_award (distinct : issued.variables.Nodup) (points : Float)
    (held : block.isSome = true → issued.feedback.isSome = true) :
    issued.Shows response (.assign issued.score (.number points) :: issued.shown block)
      block.toList := by
  have award : issued.Shows response [.assign issued.score (.number points)] [] := by
    intro progress serves
    simp [QuizPackage.runRules, Rule.run, Progress.assign, serves.scoreName]
  exact award.append (ItemIdentifiers.shows_shown distinct held)

theorem Response.value_eq_single {value : String} (filled : value ≠ "") :
    response.value = .single (.text value) ↔
      response = .identifier value ∨ response = .text value := by
  cases response with
  | identifier other => simp [Response.value]
  | text other =>
      by_cases blank : other = ""
      · simp [Response.value, blank, filled.symm]
      · simp [Response.value, blank]
  | identifiers values =>
      have notSingle : EvaluatedValue.ofScalars ((Text.ascending values).map Scalar.text) ≠
          .single (.text value) := by
        cases (Text.ascending values).map Scalar.text <;> simp [EvaluatedValue.ofScalars]
      simpa [Response.value] using notSingle
  | number value => simp [Response.value]
  | empty => simp [Response.value]

theorem Response.mem_value_scalars {value : String} (filled : value ≠ "") :
    .text value ∈ response.value.scalars ↔
      response = .identifier value ∨ response = .text value ∨
        ∃ values, response = .identifiers values ∧ value ∈ values := by
  cases response with
  | identifier other =>
      simp only [Response.value, EvaluatedValue.scalars, List.mem_singleton, Scalar.text.injEq,
        Response.identifier.injEq, reduceCtorEq, false_and, exists_false, or_false]
      exact eq_comm
  | text other =>
      by_cases blank : other = ""
      · simp [Response.value, blank, EvaluatedValue.scalars, filled.symm]
      · simp only [Response.value, beq_iff_eq, blank, if_false, EvaluatedValue.scalars,
          List.mem_singleton, Scalar.text.injEq, Response.text.injEq, reduceCtorEq, false_and,
          exists_false, or_false, false_or]
        exact eq_comm
  | identifiers values => simp [mem_scalars_identifiers]
  | number value => simp [Response.value, EvaluatedValue.scalars]
  | empty => simp [Response.value, EvaluatedValue.scalars]

/-- What a rule on a choice tests is whether the response selects it. -/
theorem taken_holds (serves : progress.Serves issued response) (filled : choice.text ≠ "") :
    (((if kind.selectsSeveral then hasChoice else isChoice) issued.response choice).eval
      progress).holds = response.selects kind choice := by
  rw [Bool.eq_iff_iff]
  cases several : kind.selectsSeveral with
  | false =>
      simp only [Bool.false_eq_true, if_false]
      rw [isChoice_holds serves.response, serves.candidate, Response.value_eq_single filled]
      cases response <;> simp [Response.selects, several]
  | true =>
      simp only [if_true]
      rw [hasChoice_holds serves.response, serves.candidate, Response.mem_value_scalars filled]
      cases response <;> simp [Response.selects, several]

theorem QuestionKind.choiceRules_eq (kind : QuestionKind) (issued : ItemIdentifiers)
    (choice : Identifier) (block : Option Identifier) :
    kind.choiceRules issued choice block = [] ∧ issued.shown block = [] ∨
      kind.choiceRules issued choice block =
        [.condition [.mk ((if kind.selectsSeveral then hasChoice else isChoice) issued.response
          choice) (issued.shown block)] []] := by
  unfold QuestionKind.choiceRules
  cases issued.shown block with
  | nil => exact .inl ⟨rfl, rfl⟩
  | cons rule rest => exact .inr rfl

/-- The block on a choice is shown if the response selects that choice. -/
theorem QuestionKind.shows_choiceRules (kind : QuestionKind) (distinct : issued.variables.Nodup)
    (filled : choice.text ≠ "") (held : block.isSome = true → issued.feedback.isSome = true) :
    issued.Shows response (kind.choiceRules issued choice block)
      (if response.selects kind choice then block.toList else []) := by
  intro progress serves
  have shown := ItemIdentifiers.shows_shown distinct held progress serves
  rcases kind.choiceRules_eq issued choice block with ⟨none, nothing⟩ | one
  · rw [nothing, QuizPackage.runRules] at shown
    rw [none, QuizPackage.runRules]
    split
    · exact shown
    · simp
  · rw [one, QuizPackage.runRules, QuizPackage.runRules, Rule.run_single,
      taken_holds serves filled]
    split
    · exact shown
    · simp [QuizPackage.runRules]

theorem QuestionKind.shows_allChoiceRules (kind : QuestionKind)
    (distinct : issued.variables.Nodup) (pairs : List (Identifier × Option Identifier))
    (filled : ∀ pair ∈ pairs, pair.1.text ≠ "")
    (held : ∀ pair ∈ pairs, pair.2.isSome = true → issued.feedback.isSome = true) :
    issued.Shows response
      (pairs.flatMap fun pair => kind.choiceRules issued pair.1 pair.2)
      (pairs.flatMap fun pair =>
        if response.selects kind pair.1 then pair.2.toList else []) := by
  induction pairs with
  | nil => exact .nil
  | cons pair rest ih =>
      rw [List.forall_mem_cons] at filled held
      exact (kind.shows_choiceRules distinct filled.1 held.1).append (ih filled.2 held.2)

/-- The scoring rule shows the block on correct or on incorrect responses. -/
theorem Question.scoringRules_feedback (decisive : question.kind.Decisive)
    (distinct : issued.variables.Nodup)
    (counted : issued.choices.length = question.kind.choices.length)
    (scored : question.kind.autoScored = true) (response : Response)
    (correct : issued.blocks.correct.isSome = true → issued.feedback.isSome = true)
    (incorrect : issued.blocks.incorrect.isSome = true → issued.feedback.isSome = true) :
    (runRules (question.scoringRules issued)
      ((question.synthesis issued).start response)).feedback =
        (if (question.synthesis issued).isMet response then issued.blocks.correct
          else issued.blocks.incorrect).toList.map Identifier.text := by
  have present := QuestionKind.condition?_isSome decisive counted
  rw [scored, Option.isSome_iff_exists] at present
  obtain ⟨condition, decided⟩ := present
  have serves := start_serves question issued response
  rw [Synthesis.isMet, Question.synthesis_condition? decisive counted, decided, Option.any_some,
    Question.scoringRules, decided]
  simp only [QuizPackage.runRules]
  rw [Rule.run_single]
  split
  · exact ItemIdentifiers.shows_award distinct _ correct _ serves
  · exact ItemIdentifiers.shows_award distinct _ incorrect _ serves

end QuizPackage
