import QuizPackage.Proofs.Item.AnswerKey

namespace QuizPackage

variable {progress : Progress} {response : Identifier} {question : Question}
  {answers : List NumericAnswer} {issued : ItemIdentifiers} {location : Location}
  {synthesis : Synthesis}

/-- The empty text is read as no number, so it need not be told from a response that is none. -/
theorem Response.number?_text (text : String) :
    (Response.text text).value.number? = Number.read? (Text.trim text) := by
  by_cases empty : text = ""
  · subst empty
    decide
  · rw [Response.value, if_neg (by simpa using empty)]
    rfl

/-- Some accepted number holds of a value if it is read as a number between the bounds of one. -/
theorem anyWithin_holds (read : progress.response = some response)
    (proper : ∀ answer ∈ answers, answer.Proper)
    (reads : ReadBack (QuestionKind.numerical answers).numbers) :
    ((Expr.any (answers.map (isWithin response))).eval progress).holds = true ↔
      ∃ number, progress.candidate.number? = some number ∧
        ∃ answer ∈ answers, answer.least ≤ number ∧ number ≤ answer.greatest := by
  apply anyHolds_map_iff
  intro answer listed
  exact isWithin_holds read
    (reads.answer listed _ (by simp) (proper answer listed).leastFinite)
    (reads.answer listed _ (by simp) (proper answer listed).greatestFinite)

/-- What a response is read as decides its score. -/
theorem Question.score_numerical (apart : issued.variables.Nodup)
    (asked : question.kind = .numerical answers) (scorable : question.Scorable)
    (reads : ReadBack question.numbers) (response : Response) :
    ((question.synthesis issued).score response).score =
      match response.value.number? with
      | some number =>
          if ∃ answer ∈ answers, answer.least ≤ number ∧ number ≤ answer.greatest then
            question.points
          else 0.0
      | none => 0.0 := by
  have decisive : (QuestionKind.numerical answers).Decisive := asked ▸ scorable.decisive
  have written : ReadBack (QuestionKind.numerical answers).numbers := fun number listed =>
    reads number (List.mem_cons_of_mem _ (asked.symm ▸ listed))
  have decided : question.kind.condition? issued =
      some (.any (answers.map (isWithin issued.response))) := by
    rw [asked]
    rfl
  have met := anyWithin_holds (start_response question issued response) decisive.2 written
  change _ ↔ ∃ number, response.value.number? = some number ∧ _ at met
  rw [Question.score_of_condition apart decided response,
    Number.reread_of_read (reads _ List.mem_cons_self scorable.finite)]
  cases counted : response.value.number? with
  | some number =>
      rw [counted] at met
      simp only [Option.some.injEq, exists_eq_left'] at met
      simp only [met]
  | none =>
      rw [counted] at met
      simp only [reduceCtorEq, false_and, exists_false] at met
      exact if_neg met.mp

/-- A number earns all points between the bounds of an accepted number, and none elsewhere; infinite
numbers and what is no number earn none. A text scores as the number that is read from it without
the blank characters around it, and earns nothing if none is. The variables are apart from each
other, as those issued for a question always are. -/
theorem number_earns_points_within_bounds (apart : issued.variables.Nodup)
    (asked : question.kind = .numerical answers)
    (accepted : synthesize question issued location = .ok synthesis)
    (reads : ReadBack question.numbers) :
    (∀ number, (synthesis.score (.number number)).score =
      if ∃ answer ∈ answers, answer.least ≤ number ∧ number ≤ answer.greatest then question.points
      else 0.0) ∧
    (∀ number, number.isFinite = false → (synthesis.score (.number number)).score = 0.0) ∧
    (∀ text number, Number.read? (Text.trim text) = some number →
      (synthesis.score (.text text)).score = (synthesis.score (.number number)).score) ∧
    (∀ text, text = "" ∨ Number.read? (Text.trim text) = none →
      (synthesis.score (.text text)).score = 0.0) := by
  obtain ⟨scorable, rfl⟩ := (synthesize_ok_iff (by rw [asked]; rfl)).mp accepted
  have decisive : (QuestionKind.numerical answers).Decisive := asked ▸ scorable.decisive
  have score := Question.score_numerical apart asked scorable reads
  have ofText (text : String) := score (.text text)
  simp only [Response.number?_text] at ofText
  refine ⟨fun number => score (.number number), ?_, ?_, ?_⟩
  · intro number infinite
    apply (score (.number number)).trans (if_neg _)
    intro ⟨answer, listed, above, below⟩
    have proper := decisive.2 answer listed
    have finite := Number.isFinite_of_between proper.leastFinite proper.greatestFinite above below
    exact Bool.noConfusion (infinite.symm.trans finite)
  · intro text number read
    rw [ofText, read]
    exact (score (.number number)).symm
  · intro text unread
    have unread : Number.read? (Text.trim text) = none := by
      rcases unread with rfl | unread
      · decide
      · exact unread
    rw [ofText, unread]

theorem boiling_earns_points_within_bounds :
    ∃ identifiers after synthesis,
      issueItemIdentifiers boiling (.top 0) (Registry.empty "" false) = .ok identifiers after ∧
      synthesize boiling identifiers (.top 0) = .ok synthesis ∧
      (synthesis.score (.number 99.5)).score = 3.0 ∧
      (synthesis.score (.number 213.5)).score = 3.0 ∧
      (synthesis.score (.number 213.6)).score = 0.0 ∧
      (synthesis.score (.number Number.infinity)).score = 0.0 ∧
      (synthesis.score (.text " 1e2 ")).score = 3.0 ∧
      (synthesis.score (.text "nan")).score = 0.0 ∧
      (synthesis.score (.text "hot")).score = 0.0 := by
  obtain ⟨identifiers, after, issued, _⟩ :=
    issueItemIdentifiers_lenient boiling (.top 0) (Registry.empty "" false) rfl
  have scorable := Question.fault?_eq_none_iff.mp
    (Option.isNone_iff_eq_none.mp (by decide +kernel : boiling.fault?.isNone = true))
  have accepted :
      synthesize boiling identifiers (.top 0) = .ok (boiling.synthesis identifiers) :=
    (synthesize_ok_iff rfl).mpr ⟨scorable, rfl⟩
  obtain ⟨earned, infinite, read, unread⟩ := number_earns_points_within_bounds
    (issueItemIdentifiers_ok issued).distinct rfl accepted (by unfold ReadBack; decide +kernel)
  have hundred : Number.read? (Text.trim " 1e2 ") = some 100.0 := by decide +kernel
  have notANumber : Number.read? (Text.trim "nan") = some (0.0 / 0.0) := by decide +kernel
  exact ⟨identifiers, after, _, issued, accepted,
    (earned _).trans (if_pos (by decide +kernel)), (earned _).trans (if_pos (by decide +kernel)),
    (earned _).trans (if_neg (by decide +kernel)), infinite _ (by decide +kernel),
    (read _ _ hundred).trans ((earned _).trans (if_pos (by decide +kernel))),
    (read _ _ notANumber).trans (infinite _ (by decide +kernel)),
    unread _ (.inr (by decide +kernel))⟩

end QuizPackage
