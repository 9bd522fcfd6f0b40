import QuizPackage.Proofs.Processing.Frame
import QuizPackage.Proofs.Text.Ascending

namespace QuizPackage

/-- The same progress with another answer of the candidate. -/
def Progress.answering (progress : Progress) (candidate : EvaluatedValue) : Progress :=
  { progress with candidate := candidate }

/-- The response, if there is one, is not among some variables. -/
def Progress.Hides (progress : Progress) (names : List Identifier) : Prop :=
  ∀ name ∈ progress.response, name ∉ names

variable {names more : List Identifier} {progress : Progress} {candidate : EvaluatedValue}

theorem Progress.Hides.mono (hides : progress.Hides more) (narrow : names ⊆ more) :
    progress.Hides names :=
  fun name member inside => hides name member (narrow inside)

theorem Progress.Hides.left (hides : progress.Hides (names ++ more)) : progress.Hides names :=
  hides.mono (List.subset_append_left _ _)

theorem Progress.Hides.right (hides : progress.Hides (names ++ more)) : progress.Hides more :=
  hides.mono (List.subset_append_right _ _)

/-- Rules never change which variable holds the response. -/
theorem Progress.Hides.frame {after : Progress} (hides : progress.Hides more)
    (frame : Progress.Frame names progress after) : after.Hides more := by
  rwa [Progress.Hides, frame.response]

theorem Progress.value_answering {name : Identifier} (hides : progress.Hides [name]) :
    (progress.answering candidate).value name = progress.value name := by
  have other : (progress.response == some name) = false := by
    rw [beq_eq_false_iff_ne]
    intro same
    exact hides name same List.mem_cons_self
  simp only [Progress.value, Progress.answering, other]
  rfl

mutual

/-- An expression that does not read the response has the same value whatever the answer. -/
theorem Expr.eval_answering (expression : Expr) (hides : progress.Hides expression.variables) :
    expression.eval (progress.answering candidate) = expression.eval progress := by
  cases expression with
  | read name => exact Progress.value_answering hides
  | literal baseType value => rfl
  | multiple items => simp only [Expr.eval, scalarsOfAll_answering items hides]
  | «matches» left right | member left right | atLeast left right | atMost left right
  | textMatch caseSensitive left right =>
      simp only [Expr.eval, left.eval_answering hides.left, right.eval_answering hides.right]
  | all operands => simp only [Expr.eval, allHold_answering operands hides]
  | any operands => simp only [Expr.eval, anyHolds_answering operands hides]
  | negation operand | isNull operand => simp only [Expr.eval, operand.eval_answering hides]

theorem scalarsOfAll_answering (items : List Expr) (hides : progress.Hides (variablesOfAll items)) :
    scalarsOfAll (progress.answering candidate) items = scalarsOfAll progress items := by
  cases items with
  | nil => rfl
  | cons first rest =>
      simp only [scalarsOfAll, first.eval_answering hides.left,
        scalarsOfAll_answering rest hides.right]

theorem allHold_answering (operands : List Expr)
    (hides : progress.Hides (variablesOfAll operands)) :
    allHold (progress.answering candidate) operands = allHold progress operands := by
  cases operands with
  | nil => rfl
  | cons first rest =>
      simp only [allHold, first.eval_answering hides.left, allHold_answering rest hides.right]

theorem anyHolds_answering (operands : List Expr)
    (hides : progress.Hides (variablesOfAll operands)) :
    anyHolds (progress.answering candidate) operands = anyHolds progress operands := by
  cases operands with
  | nil => rfl
  | cons first rest =>
      simp only [anyHolds, first.eval_answering hides.left, anyHolds_answering rest hides.right]

end

theorem Progress.assign_answering (progress : Progress) (candidate : EvaluatedValue)
    (name : Identifier) (value : EvaluatedValue) :
    (progress.answering candidate).assign name value =
      (progress.assign name value).answering candidate := by
  unfold Progress.assign Progress.answering
  dsimp only
  split
  · rfl
  · split <;> rfl

mutual

/-- A rule in which the response does not occur does the same whatever the answer. -/
theorem Rule.run_answering (rule : Rule) {progress : Progress}
    (hides : progress.Hides rule.variables) :
    rule.run (progress.answering candidate) = (rule.run progress).answering candidate := by
  cases rule with
  | condition branches otherwise =>
      simp only [Rule.run, runBranches_answering branches hides.left]
      cases runBranches branches progress with
      | some after => rfl
      | none => exact runRules_answering otherwise hides.right
  | assign name value =>
      have read : progress.Hides value.variables := hides.mono (List.subset_cons_self _ _)
      simp only [Rule.run, value.eval_answering read]
      exact progress.assign_answering candidate name _

theorem Branch.run_answering (branch : Branch) {progress : Progress}
    (hides : progress.Hides branch.variables) :
    branch.run? (progress.answering candidate) =
      (branch.run? progress).map fun after => after.answering candidate := by
  cases branch with
  | mk condition rules =>
      simp only [Branch.run?, condition.eval_answering hides.left,
        runRules_answering rules hides.right]
      split <;> rfl

theorem runBranches_answering (branches : List Branch) {progress : Progress}
    (hides : progress.Hides (variablesOfBranches branches)) :
    runBranches branches (progress.answering candidate) =
      (runBranches branches progress).map fun after => after.answering candidate := by
  cases branches with
  | nil => rfl
  | cons first rest =>
      simp only [runBranches, first.run_answering hides.left]
      cases first.run? progress with
      | some after => rfl
      | none => exact runBranches_answering rest hides.right

theorem runRules_answering (rules : List Rule) {progress : Progress}
    (hides : progress.Hides (variablesOfRules rules)) :
    runRules rules (progress.answering candidate) =
      (runRules rules progress).answering candidate := by
  cases rules with
  | nil => rfl
  | cons first rest =>
      simp only [runRules, first.run_answering hides.left]
      exact runRules_answering rest (hides.right.frame (first.run_frame progress))

end

theorem Synthesis.start_answering (synthesis : Synthesis) (first second : Response) :
    synthesis.start second = (synthesis.start first).answering second.value := rfl

/-- Two responses to rules that do not name the variable of the response have the same outcome. -/
theorem Synthesis.score_of_hidden {synthesis : Synthesis} {first : Response}
    (hides : (synthesis.start first).Hides (variablesOfRules synthesis.rules))
    (second : Response) : synthesis.score first = synthesis.score second := by
  simp only [Synthesis.score, synthesis.start_answering first second, runRules_answering _ hides]
  rfl

/-- A response matters only if the rules name its variable, and so with the outcomes: a score that
they do not name keeps its default value, and feedback that they do not name is never shown. -/
theorem outcome_follows_named_variables (synthesis : Synthesis) :
    ((∀ declaration ∈ synthesis.declarations.response,
        declaration.identifier ∉ synthesis.variables) →
      ∀ first second, synthesis.score first = synthesis.score second) ∧
    ((∀ declaration ∈ synthesis.declarations.outcome? .score,
        declaration.identifier ∉ synthesis.variables) →
      ∀ response, (synthesis.score response).score =
        ((synthesis.declarations.outcome? .score).bind fun declaration =>
          declaration.defaultValue.bind Number.read?).getD 0.0) ∧
    ((∀ declaration ∈ synthesis.declarations.outcome? .feedback,
        declaration.identifier ∉ synthesis.variables) →
      ∀ response, (synthesis.score response).feedback = []) := by
  simp only [Synthesis.variables, Text.mem_ascending]
  refine ⟨fun unnamed first second => ?_, fun unnamed response => ?_, fun unnamed response => ?_⟩
  · refine Synthesis.score_of_hidden (fun name member inside => ?_) second
    obtain ⟨declaration, declared, rfl⟩ := Option.map_eq_some_iff.mp member
    exact unnamed declaration declared inside
  · have kept := (runRules_frame synthesis.rules (synthesis.start response)).score
      fun name member inside => by
        obtain ⟨declaration, declared, rfl⟩ := Option.map_eq_some_iff.mp member
        exact unnamed declaration declared inside
    refine kept.trans ?_
    simp only [Synthesis.start, Declarations.startingScore, Option.bind_assoc]
  · have kept := (runRules_frame synthesis.rules (synthesis.start response)).feedback
      fun name member inside => by
        obtain ⟨declaration, declared, rfl⟩ := Option.map_eq_some_iff.mp member
        exact unnamed declaration declared inside
    exact kept

/-- Rules that count the tries, and name nothing that is declared. -/
def sextant : Synthesis :=
  { declarations :=
      { response := some ⟨⟨"RESPONSE"⟩, .single, .text, ["north"]⟩
        outcomes := [
          ⟨⟨"SCORE"⟩, .score, .single, .number, some "2.5", some 4.0, false⟩,
          ⟨⟨"FEEDBACK"⟩, .feedback, .multiple, .identifier, none, none, false⟩] }
    rules := [
      .condition
        [.mk (.isNull (.read ⟨"TRIES"⟩)) [.assign ⟨"TRIES"⟩ (.number 1.0)]]
        [.condition
          [.mk (.atMost (.read ⟨"TRIES"⟩) (.number 3.0))
            [.assign ⟨"TRIES"⟩ (.multiple [.read ⟨"TRIES"⟩, .text "again"])]]
          [.assign ⟨"LOST"⟩ (.all [])]]] }

theorem sextant_outcome_stands :
    (⟨"RESPONSE"⟩ : Identifier) ∉ sextant.variables ∧
    (⟨"SCORE"⟩ : Identifier) ∉ sextant.variables ∧
    (⟨"FEEDBACK"⟩ : Identifier) ∉ sextant.variables ∧
    sextant.score (.text "north") = sextant.score (.identifiers ["south", "east"]) ∧
    (sextant.score (.text "north")).score = 2.5 ∧
    (sextant.score (.text "north")).feedback = [] := by
  have response : (⟨"RESPONSE"⟩ : Identifier) ∉ sextant.variables := by decide
  have score : (⟨"SCORE"⟩ : Identifier) ∉ sextant.variables := by decide
  have feedback : (⟨"FEEDBACK"⟩ : Identifier) ∉ sextant.variables := by decide
  obtain ⟨hidden, kept, silent⟩ := outcome_follows_named_variables sextant
  refine ⟨response, score, feedback, hidden ?_ _ _, (kept ?_ _).trans ?_, silent ?_ _⟩
  · rintro declaration ⟨⟩
    exact response
  · rintro declaration ⟨⟩
    exact score
  · decide +kernel
  · rintro declaration ⟨⟩
    exact feedback

end QuizPackage
