import QuizPackage.Processing.Evaluation

namespace QuizPackage

/-- Rules in which some variables occur may lead from one progress to the other. -/
structure Progress.Frame (names : List Identifier) (before after : Progress) : Prop where
  response : after.response = before.response
  candidate : after.candidate = before.candidate
  scoreName : after.scoreName = before.scoreName
  feedbackName : after.feedbackName = before.feedbackName
  score : (∀ name ∈ before.scoreName, name ∉ names) → after.score = before.score
  feedback : (∀ name ∈ before.feedbackName, name ∉ names) → after.feedback = before.feedback

variable {names more : List Identifier} {before middle after : Progress}

theorem Progress.Frame.refl (progress : Progress) : Progress.Frame names progress progress :=
  ⟨rfl, rfl, rfl, rfl, fun _ => rfl, fun _ => rfl⟩

theorem Progress.Frame.trans (first : Progress.Frame names before middle)
    (second : Progress.Frame names middle after) : Progress.Frame names before after where
  response := second.response.trans first.response
  candidate := second.candidate.trans first.candidate
  scoreName := second.scoreName.trans first.scoreName
  feedbackName := second.feedbackName.trans first.feedbackName
  score := fun absent => by
    have still : ∀ name ∈ middle.scoreName, name ∉ names := by rwa [first.scoreName]
    exact (second.score still).trans (first.score absent)
  feedback := fun absent => by
    have still : ∀ name ∈ middle.feedbackName, name ∉ names := by rwa [first.feedbackName]
    exact (second.feedback still).trans (first.feedback absent)

theorem Progress.Frame.mono (frame : Progress.Frame names before after) (wide : names ⊆ more) :
    Progress.Frame more before after where
  response := frame.response
  candidate := frame.candidate
  scoreName := frame.scoreName
  feedbackName := frame.feedbackName
  score := fun absent => frame.score fun name member inside => absent name member (wide inside)
  feedback := fun absent =>
    frame.feedback fun name member inside => absent name member (wide inside)

theorem Progress.assign_frame (progress : Progress) (name : Identifier) (value : EvaluatedValue) :
    Progress.Frame [name] progress (progress.assign name value) := by
  unfold Progress.assign
  split
  · rename_i isScore
    refine ⟨rfl, rfl, rfl, rfl, fun absent => ?_, fun _ => rfl⟩
    exact absurd List.mem_cons_self (absent name (by simpa using isScore))
  · split
    · rename_i isFeedback
      refine ⟨rfl, rfl, rfl, rfl, fun _ => rfl, fun absent => ?_⟩
      exact absurd List.mem_cons_self (absent name (by simpa using isFeedback))
    · exact .refl progress

mutual

theorem Rule.run_frame (rule : Rule) (progress : Progress) :
    Progress.Frame rule.variables progress (rule.run progress) := by
  cases rule with
  | condition branches otherwise =>
      simp only [Rule.variables, Rule.run]
      split
      · rename_i after ran
        exact (runBranches_frame branches progress after ran).mono
          (List.subset_append_left _ _)
      · exact (runRules_frame otherwise progress).mono (List.subset_append_right _ _)
  | assign name value =>
      simp only [Rule.variables, Rule.run]
      exact (progress.assign_frame name _).mono (by simp)

theorem Branch.run_frame (branch : Branch) (progress after : Progress)
    (ran : branch.run? progress = some after) :
    Progress.Frame branch.variables progress after := by
  cases branch with
  | mk condition rules =>
      simp only [Branch.run?] at ran
      split at ran
      · cases ran
        exact (runRules_frame rules progress).mono (List.subset_append_right _ _)
      · cases ran

theorem runBranches_frame (branches : List Branch) (progress after : Progress)
    (ran : runBranches branches progress = some after) :
    Progress.Frame (variablesOfBranches branches) progress after := by
  cases branches with
  | nil => cases ran
  | cons branch rest =>
      simp only [runBranches] at ran
      split at ran
      · rename_i reached taken
        cases ran
        exact (branch.run_frame progress _ taken).mono (List.subset_append_left _ _)
      · exact (runBranches_frame rest progress after ran).mono (List.subset_append_right _ _)

theorem runRules_frame (rules : List Rule) (progress : Progress) :
    Progress.Frame (variablesOfRules rules) progress (runRules rules progress) := by
  cases rules with
  | nil => exact .refl progress
  | cons rule rest =>
      simp only [variablesOfRules, runRules]
      have first := (rule.run_frame progress).mono (List.subset_append_left _ (variablesOfRules rest))
      have others := (runRules_frame rest (rule.run progress)).mono
        (List.subset_append_right rule.variables _)
      exact first.trans others

end

theorem runRules_append (first second : List Rule) (progress : Progress) :
    runRules (first ++ second) progress = runRules second (runRules first progress) := by
  induction first generalizing progress with
  | nil => rfl
  | cons rule rest ih =>
      simp only [List.cons_append, runRules]
      exact ih _

end QuizPackage
