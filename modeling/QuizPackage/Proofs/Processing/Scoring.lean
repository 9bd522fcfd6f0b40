import QuizPackage.Proofs.Item.Issuing
import QuizPackage.Proofs.Processing.Frame

namespace QuizPackage

variable {identifiers : ItemIdentifiers} {question : Question} {progress : Progress}

theorem variablesOfAll_eq (operands : List Expr) :
    variablesOfAll operands = operands.flatMap Expr.variables := by
  induction operands with
  | nil => rfl
  | cons operand rest ih => rw [variablesOfAll, ih, List.flatMap_cons]

theorem variablesOfRules_eq (rules : List Rule) :
    variablesOfRules rules = rules.flatMap Rule.variables := by
  induction rules with
  | nil => rfl
  | cons rule rest ih => rw [variablesOfRules, ih, List.flatMap_cons]

theorem isRightlyTaken_variables (response : Identifier) (choice : Choice)
    (identifier : Identifier) :
    (isRightlyTaken response choice identifier).variables = [response] := by
  unfold isRightlyTaken
  split <;> rfl

/-- A condition reads nothing but the response. -/
theorem QuestionKind.condition_variables {kind : QuestionKind} {condition : Expr}
    (decided : kind.condition? identifiers = some condition) :
    condition.variables ⊆ [identifiers.response] := by
  cases kind with
  | singleChoice choices | trueFalse choices =>
      obtain ⟨choice, _, rfl⟩ := Option.map_eq_some_iff.mp decided
      exact List.Subset.refl _
  | multipleAnswer choices =>
      cases decided
      intro name member
      rw [Expr.variables, variablesOfAll_eq, List.mem_flatMap] at member
      obtain ⟨operand, listed, reads⟩ := member
      obtain ⟨pair, _, rfl⟩ := List.mem_map.mp listed
      rwa [isRightlyTaken_variables] at reads
  | shortAnswer answers =>
      cases decided
      intro name member
      rw [Expr.variables, variablesOfAll_eq, List.mem_flatMap] at member
      obtain ⟨operand, listed, reads⟩ := member
      obtain ⟨answer, _, rfl⟩ := List.mem_map.mp listed
      exact reads
  | numerical answers =>
      cases decided
      intro name member
      rw [Expr.variables, variablesOfAll_eq, List.mem_flatMap] at member
      obtain ⟨operand, listed, reads⟩ := member
      obtain ⟨answer, _, rfl⟩ := List.mem_map.mp listed
      simpa [isWithin, Expr.variables, variablesOfAll, Expr.number] using reads
  | essay => cases decided
  | fileUpload => cases decided

theorem ItemIdentifiers.shown_variables (identifiers : ItemIdentifiers)
    (block : Option Identifier) :
    variablesOfRules (identifiers.shown block) ⊆ identifiers.feedback.toList := by
  unfold ItemIdentifiers.shown
  split
  · rename_i feedback block present
    simp [present, variablesOfRules, Rule.variables, Expr.variables, variablesOfAll,
      Expr.identifier]
  · simp [variablesOfRules]

theorem QuestionKind.choiceRules_variables (kind : QuestionKind) (identifiers : ItemIdentifiers)
    (choice : Identifier) (block : Option Identifier) :
    variablesOfRules (kind.choiceRules identifiers choice block) ⊆
      identifiers.response :: identifiers.feedback.toList := by
  have shown := identifiers.shown_variables block
  unfold QuestionKind.choiceRules
  dsimp only
  split
  · simp [variablesOfRules]
  · intro name member
    simp only [variablesOfRules, Rule.variables, variablesOfBranches, Branch.variables,
      List.append_nil, List.mem_append] at member
    rcases member with reads | assigned
    · refine List.mem_cons.mpr (.inl ?_)
      split at reads <;> simpa [isChoice, hasChoice, Expr.variables, Expr.identifier] using reads
    · exact List.mem_cons_of_mem _ (shown assigned)

def Question.feedbackRules (question : Question) (identifiers : ItemIdentifiers) : List Rule :=
  (identifiers.choices.zip identifiers.blocks.choices).flatMap (fun (choice, block) =>
    question.kind.choiceRules identifiers choice block) ++
  identifiers.shown identifiers.blocks.general

theorem Question.rules_eq (question : Question) (identifiers : ItemIdentifiers) :
    question.rules identifiers =
      question.scoringRules identifiers ++ question.feedbackRules identifiers := by
  rw [Question.rules, Question.feedbackRules, List.append_assoc]

theorem Question.feedbackRules_variables (question : Question) (identifiers : ItemIdentifiers) :
    variablesOfRules (question.feedbackRules identifiers) ⊆
      identifiers.response :: identifiers.feedback.toList := by
  intro name member
  rw [Question.feedbackRules, variablesOfRules_eq, List.flatMap_append, List.mem_append] at member
  rcases member with member | member
  · rw [List.flatMap_assoc, List.mem_flatMap] at member
    obtain ⟨pair, _, inside⟩ := member
    rw [← variablesOfRules_eq] at inside
    exact question.kind.choiceRules_variables identifiers _ _ inside
  · rw [← variablesOfRules_eq] at member
    exact List.mem_cons_of_mem _ (identifiers.shown_variables _ member)

/-- The rules of a question hold no other variables than those issued for it. -/
theorem Question.rules_variables (question : Question) (identifiers : ItemIdentifiers) :
    variablesOfRules (question.rules identifiers) ⊆ identifiers.variables := by
  have shown := identifiers.shown_variables
  have feedback := question.feedbackRules_variables identifiers
  intro name member
  rw [Question.rules_eq, variablesOfRules_eq, List.flatMap_append, List.mem_append,
    ← variablesOfRules_eq, ← variablesOfRules_eq] at member
  simp only [ItemIdentifiers.variables, List.mem_cons]
  rcases member with scoring | choosing
  · unfold Question.scoringRules at scoring
    split at scoring
    · cases scoring
    · rename_i condition decided
      simp only [variablesOfRules, Rule.variables, variablesOfBranches, Branch.variables,
        Expr.number, Expr.variables, List.append_nil, List.mem_append, List.mem_cons,
        List.cons_append, List.nil_append] at scoring
      rcases scoring with (reads | rfl | assigned) | rfl | assigned
      · exact .inl (List.mem_singleton.mp (QuestionKind.condition_variables decided reads))
      · exact .inr (.inl rfl)
      · exact .inr (.inr (shown _ assigned))
      · exact .inr (.inl rfl)
      · exact .inr (.inr (shown _ assigned))
  · rcases List.mem_cons.mp (feedback choosing) with rfl | chosen
    · exact .inl rfl
    · exact .inr (.inr chosen)

/-- The number that the literal of a number is read as, which is zero when it is not read. -/
def Number.reread (number : Float) : Float :=
  (Number.read? (Number.literal number)).getD 0.0

theorem Number.reread_zero : Number.reread 0.0 = 0.0 := by
  decide +kernel

theorem Number.reread_of_read {number : Float}
    (reads : Number.read? (Number.literal number) = some number) :
    Number.reread number = number := by
  rw [Number.reread, reads, Option.getD_some]

theorem EvaluatedValue.holds_truth (holds : Bool) : (EvaluatedValue.truth holds).holds = holds := by
  cases holds
  · decide +kernel
  · decide +kernel

theorem QuestionKind.declaredResponse_identifier (kind : QuestionKind)
    (identifiers : ItemIdentifiers) :
    (kind.declaredResponse identifiers).identifier = identifiers.response := by
  cases kind <;> rfl

theorem start_response (question : Question) (identifiers : ItemIdentifiers)
    (response : Response) :
    ((question.synthesis identifiers).start response).response = some identifiers.response :=
  congrArg some (question.kind.declaredResponse_identifier identifiers)

theorem start_scoreName (question : Question) (identifiers : ItemIdentifiers)
    (response : Response) :
    ((question.synthesis identifiers).start response).scoreName = some identifiers.score := rfl

theorem Declarations.startingScore_eq_zero {declarations : Declarations}
    (written : (declarations.outcome? .score).bind OutcomeDeclaration.defaultValue =
      some (Number.literal 0.0)) : declarations.startingScore = 0.0 := by
  rw [Declarations.startingScore, written, Option.bind_some]
  exact Number.reread_zero

theorem start_score (question : Question) (identifiers : ItemIdentifiers) (response : Response) :
    ((question.synthesis identifiers).start response).score = 0.0 := by
  have written : ((question.synthesis identifiers).declarations.outcome? .score).bind
      OutcomeDeclaration.defaultValue = some (Number.literal 0.0) := rfl
  simp only [Synthesis.start, Declarations.startingScore_eq_zero written]

theorem Rule.run_single (condition : Expr) (rules otherwise : List Rule) (progress : Progress) :
    (Rule.condition [.mk condition rules] otherwise).run progress =
      if (condition.eval progress).holds then runRules rules progress
      else runRules otherwise progress := by
  simp only [Rule.run, runBranches, Branch.run?]
  cases (condition.eval progress).holds <;> rfl

/-- Assigning a number to the score makes it what the literal is read as, whatever feedback is
shown after. -/
theorem runRules_award (distinct : identifiers.variables.Nodup)
    (named : progress.scoreName = some identifiers.score) (points : Float)
    (block : Option Identifier) :
    (runRules (.assign identifiers.score (.number points) :: identifiers.shown block)
      progress).score = Number.reread points := by
  have apart : identifiers.score ∉ identifiers.feedback.toList :=
    (List.nodup_cons.mp (List.nodup_cons.mp distinct).2).1
  have awarded : (progress.assign identifiers.score
      (Expr.eval progress (.number points))).score = Number.reread points := by
    simp only [Progress.assign, named, beq_self_eq_true, if_true, Expr.number, Expr.eval,
      literalValue, Number.reread]
    cases Number.read? (Number.literal points) <;> rfl
  simp only [runRules, Rule.run]
  rw [← awarded]
  refine (runRules_frame (identifiers.shown block) _).score fun name member inside => ?_
  rw [(progress.assign_frame _ _).scoreName, named] at member
  cases member
  exact apart (identifiers.shown_variables block inside)

/-- Rules on feedback, all of them or some, leave the score alone. -/
theorem runRules_score_of_feedbackRules (distinct : identifiers.variables.Nodup)
    (named : progress.scoreName = some identifiers.score) {rules : List Rule}
    (chosen : rules ⊆ question.feedbackRules identifiers) :
    (runRules rules progress).score = progress.score := by
  refine (runRules_frame rules progress).score fun name member inside => ?_
  rw [named] at member
  cases member
  have among : identifiers.score ∈ variablesOfRules (question.feedbackRules identifiers) := by
    rw [variablesOfRules_eq, List.mem_flatMap] at inside ⊢
    obtain ⟨rule, listed, held⟩ := inside
    exact ⟨rule, chosen listed, held⟩
  simp only [ItemIdentifiers.variables, List.nodup_cons, List.mem_cons, not_or] at distinct
  rcases List.mem_cons.mp (question.feedbackRules_variables identifiers among) with equal | shown
  · exact distinct.1.1 equal.symm
  · exact distinct.2.1 shown

/-- The score is what the scoring rules make it, since rules on feedback leave it alone. -/
theorem Question.score_scoringRules (distinct : identifiers.variables.Nodup)
    (question : Question) (response : Response) :
    ((question.synthesis identifiers).score response).score =
      (runRules (question.scoringRules identifiers)
        ((question.synthesis identifiers).start response)).score := by
  simp only [Synthesis.score, Question.synthesis, Question.rules_eq, runRules_append]
  exact runRules_score_of_feedbackRules distinct
    (runRules_frame (question.scoringRules identifiers) _).scoreName (List.Subset.refl _)

/-- Where a condition decides, the score is all points if it holds of the response, and zero
otherwise. -/
theorem Question.score_of_condition (distinct : identifiers.variables.Nodup) {condition : Expr}
    (decided : question.kind.condition? identifiers = some condition) (response : Response) :
    ((question.synthesis identifiers).score response).score =
      if (condition.eval ((question.synthesis identifiers).start response)).holds then
        Number.reread question.points
      else 0.0 := by
  have named := start_scoreName question identifiers response
  rw [Question.score_scoringRules distinct]
  simp only [Question.scoringRules, decided]
  rw [runRules, runRules, Rule.run_single]
  split
  · exact runRules_award distinct named question.points _
  · exact (runRules_award distinct named 0.0 _).trans Number.reread_zero

end QuizPackage
