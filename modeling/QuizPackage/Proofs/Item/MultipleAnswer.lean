import QuizPackage.Proofs.Item.Building
import QuizPackage.Proofs.Processing.Conditions

namespace QuizPackage

variable {progress : Progress} {response identifier : Identifier} {choice : Choice}
  {choices : List Choice} {identifiers : List Identifier} {values : List String}

theorem isRightlyTaken_holds (read : progress.response = some response)
    (answered : progress.candidate = (Response.identifiers values).value) :
    ((isRightlyTaken response choice identifier).eval progress).holds = true ↔
      (choice.correct = true ↔ identifier.text ∈ values) := by
  have taken : ((hasChoice response identifier).eval progress).holds = true ↔
      identifier.text ∈ values := by
    rw [hasChoice_holds read, answered, mem_scalars_identifiers]
  unfold isRightlyTaken
  cases choice.correct with
  | true => simpa using taken
  | false =>
      simp only [Bool.false_eq_true, if_false, Expr.eval, EvaluatedValue.holds_truth, false_iff,
        Bool.not_eq_true', ← taken, Bool.not_eq_true]

/-- Where the identifiers of the choices are distinct, every choice is rightly taken or left only by
the set of the correct ones. -/
theorem rightlyTaken_iff (distinct : identifiers.Nodup)
    (counted : identifiers.length = choices.length)
    (offered : values ⊆ identifiers.map Identifier.text) :
    (∀ pair ∈ choices.zip identifiers, (pair.1.correct = true ↔ pair.2.text ∈ values)) ↔
      ∀ value, value ∈ values ↔
        value ∈ (correctChoices choices identifiers).map Identifier.text := by
  have seconds : (choices.zip identifiers).map Prod.snd = identifiers :=
    List.map_snd_zip (Nat.le_of_eq counted)
  constructor
  · intro right value
    constructor
    · intro member
      obtain ⟨identifier, listed, rfl⟩ := List.mem_map.mp (offered member)
      rw [← seconds] at listed
      obtain ⟨⟨choice, _⟩, paired, rfl⟩ := List.mem_map.mp listed
      have correct := (right _ paired).mpr member
      exact List.mem_map_of_mem (mem_correctChoices.mpr ⟨choice, paired, correct⟩)
    · intro member
      obtain ⟨identifier, chosen, rfl⟩ := List.mem_map.mp member
      obtain ⟨choice, paired, correct⟩ := mem_correctChoices.mp chosen
      exact (right _ paired).mp correct
  · rintro same ⟨choice, identifier⟩ paired
    rw [same]
    constructor
    · intro correct
      exact List.mem_map_of_mem (mem_correctChoices.mpr ⟨choice, paired, correct⟩)
    · intro member
      obtain ⟨other, chosen, equal⟩ := List.mem_map.mp member
      obtain ⟨twin, pairedTwin, correct⟩ := mem_correctChoices.mp chosen
      obtain rfl : other = identifier := Identifier.text_injective equal
      -- Two choices with one identifier are the same choice.
      have twins := List.inj_on_of_nodup_map (seconds.symm ▸ distinct) pairedTwin paired rfl
      cases twins
      exact correct

/-- The condition of a question with several answers holds of the set of the correct ones only. -/
theorem allRightlyTaken_holds (read : progress.response = some response)
    (answered : progress.candidate = (Response.identifiers values).value)
    (distinct : identifiers.Nodup) (counted : identifiers.length = choices.length)
    (offered : values ⊆ identifiers.map Identifier.text) :
    ((Expr.all ((choices.zip identifiers).map fun pair =>
      isRightlyTaken response pair.1 pair.2)).eval progress).holds = true ↔
      ∀ value, value ∈ values ↔
        value ∈ (correctChoices choices identifiers).map Identifier.text := by
  rw [← rightlyTaken_iff distinct counted offered, Expr.eval, EvaluatedValue.holds_truth,
    allHold_iff, List.forall_mem_map]
  refine forall₂_congr fun pair _ => ?_
  exact isRightlyTaken_holds read answered

theorem Question.score_multipleAnswer {question : Question} {issued : ItemIdentifiers}
    (asked : question.kind = .multipleAnswer choices) (apart : issued.variables.Nodup)
    (distinct : issued.choices.Nodup) (counted : issued.choices.length = choices.length)
    (reads : Number.read? (Number.literal question.points) = some question.points)
    (offered : values ⊆ issued.choices.map Identifier.text) :
    ((∀ value, value ∈ values ↔
        value ∈ (correctChoices choices issued.choices).map Identifier.text) →
      ((question.synthesis issued).score (.identifiers values)).score = question.points) ∧
    (¬(∀ value, value ∈ values ↔
        value ∈ (correctChoices choices issued.choices).map Identifier.text) →
      ((question.synthesis issued).score (.identifiers values)).score = 0.0) := by
  have decided : question.kind.condition? issued =
      some (.all ((choices.zip issued.choices).map fun pair =>
        isRightlyTaken issued.response pair.1 pair.2)) := by
    rw [asked]
    rfl
  have score := Question.score_of_condition apart decided (.identifiers values)
  have met := allRightlyTaken_holds (start_response question issued (.identifiers values)) rfl
    distinct counted offered
  rw [Number.reread_of_read reads] at score
  refine ⟨fun matched => ?_, fun differs => ?_⟩
  · exact score.trans (if_pos (met.mpr matched))
  · exact score.trans (if_neg fun holds => differs (met.mp holds))

/-- A response that lists choices of an item earns all points if the listed choices are the correct
ones, in any order and however often, and none otherwise. As some choice is correct, a response that
lists nothing earns nothing. -/
theorem multipleAnswer_earns_all_or_nothing {registry after : Registry} {question : Question}
    {location : Location} {shuffle : Bool} {item : Item} (reachable : registry.Reachable)
    (asked : question.kind = .multipleAnswer choices)
    (ran : buildItem question location shuffle registry = .ok item after)
    (reads : Number.read? (Number.literal question.points) = some question.points) :
    let offered := item.choices.map SimpleChoice.identifier
    let correct := (correctChoices choices offered).map Identifier.text
    offered.length = choices.length ∧ correct ≠ [] ∧
      (item.synthesis.score (.identifiers [])).score = 0.0 ∧
      ∀ values ⊆ offered.map Identifier.text,
        ((∀ value, value ∈ values ↔ value ∈ correct) →
          (item.synthesis.score (.identifiers values)).score = question.points) ∧
        (¬(∀ value, value ∈ values ↔ value ∈ correct) →
          (item.synthesis.score (.identifiers values)).score = 0.0) := by
  obtain ⟨fine, issued, bound, rfl⟩ := buildItem_ok ran
  have sound := ((buildItem_within question location shuffle).reaches ran).sound reachable.sound
  have counted : issued.choices.length = choices.length := by
    rw [bound.choices_length, asked]
    rfl
  have decisive : (QuestionKind.multipleAnswer choices).Decisive :=
    asked ▸ (Question.problem?_eq_none_iff.mp fine).1.decisive
  have same : (question.item issued (question.synthesis issued) location shuffle).choices.map
      SimpleChoice.identifier = issued.choices := Question.item_choices bound.choices_length
  rw [same]
  intro offered correct
  have someCorrect : correct ≠ [] := by
    rw [ne_eq, List.map_eq_nil_iff]
    exact correctChoices_ne_nil counted decisive.2
  have earned := fun values (listed : values ⊆ offered.map Identifier.text) =>
    Question.score_multipleAnswer asked bound.distinct (bound.choices_nodup sound) counted reads
      listed
  refine ⟨counted, someCorrect, (earned [] (List.nil_subset _)).2 fun empty => ?_, earned⟩
  obtain ⟨value, member⟩ := List.exists_mem_of_ne_nil _ someCorrect
  cases (empty value).mpr member

def vowels : Question :=
  { title := some "Vowels"
    prompt := "<p>Which are vowels?</p>"
    points := 2.5
    kind := .multipleAnswer [.plain "A" true, .plain "B" false, .plain "E" true]
    feedback := ⟨some "A, E", none, some "Once more"⟩
    assets := [] }

theorem vowels_earn_all_or_nothing :
    ∃ item after, buildItem vowels (.top 0) true (Registry.empty "Spring" false) = .ok item after ∧
      (item.synthesis.score
        (.identifiers ["choice_3_spring", "choice_spring", "choice_3_spring"])).score = 2.5 ∧
      (item.synthesis.score (.identifiers ["choice_spring"])).score = 0.0 ∧
      (item.synthesis.score (.identifiers [])).score = 0.0 := by
  have fine : vowels.problem? (.top 0) = none := Option.isNone_iff_eq_none.mp (by decide +kernel)
  have lenient : (Registry.empty "Spring" false).strict = false := rfl
  obtain ⟨item, after, ran⟩ := Issuing.verdict_eq_none.mp
    ((buildItem_verdict lenient vowels (.top 0) true).trans fine)
  have listed : (match buildItem vowels (.top 0) true (Registry.empty "Spring" false) with
      | .ok item _ => item.choices.map SimpleChoice.identifier
      | .error _ _ => []) = [⟨"choice_spring"⟩, ⟨"choice_2_spring"⟩, ⟨"choice_3_spring"⟩] := by
    decide +kernel
  obtain ⟨_, _, nothing, all⟩ := multipleAnswer_earns_all_or_nothing
    ⟨"Spring", false, .refl _⟩ rfl ran (by decide +kernel)
  rw [ran] at listed
  dsimp only at listed
  rw [listed] at all
  refine ⟨item, after, ran, (all _ (by decide)).1 ?_, (all _ (by decide)).2 ?_, nothing⟩
  · intro value
    simp [correctChoices, Choice.plain, or_comm]
  · intro same
    exact absurd ((same "choice_3_spring").mpr (by decide)) (by decide)

end QuizPackage
