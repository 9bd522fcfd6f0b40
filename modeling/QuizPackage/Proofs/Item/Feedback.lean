import Mathlib.Data.List.Zip
import QuizPackage.Proofs.Processing.Feedback

namespace QuizPackage

variable {issued : ItemIdentifiers} {question : Question} {kind : QuestionKind}
  {response : Response} {location : Location} {registry after : Registry} {shuffle : Bool}
  {item : Item}

/-- The slots of the feedback on a question, in the order of the blocks of an item. -/
def QuestionKind.slots (kind : QuestionKind) : List FeedbackSlot :=
  .correct :: .incorrect :: (List.range kind.choices.length).map .choice ++ [.general]

def Question.slottedBodies (question : Question) : List (FeedbackSlot × Option String) :=
  question.kind.slots.zip question.feedbackBodies.inItemOrder

/-- The slots of a question for which there is a text. -/
def Question.feedbackSlots (question : Question) : List FeedbackSlot :=
  (question.slottedBodies.filter fun slotted => slotted.2.isSome).map Prod.fst

/-- Whether a response calls for the feedback of a slot. -/
def Item.isDue (item : Item) (kind : QuestionKind) (response : Response) : FeedbackSlot → Bool
  | .correct => item.synthesis.isMet response
  | .incorrect => !item.synthesis.isMet response
  | .choice index =>
      item.choices[index]?.any fun choice => response.selects kind choice.identifier
  | .general => true

theorem QuestionKind.slots_nodup (kind : QuestionKind) : kind.slots.Nodup := by
  have choices : ((List.range kind.choices.length).map FeedbackSlot.choice).Nodup :=
    List.nodup_range.map fun _ _ equal => FeedbackSlot.choice.inj equal
  simp [QuestionKind.slots, List.nodup_append, choices]

theorem Question.slottedBodies_slots (question : Question) :
    question.slottedBodies.map Prod.fst = question.kind.slots := by
  refine List.map_fst_zip (Nat.le_of_eq ?_)
  simp [QuestionKind.slots, FeedbackParts.inItemOrder, Question.feedbackBodies]

theorem Question.feedbackSlots_nodup (question : Question) : question.feedbackSlots.Nodup := by
  refine List.Nodup.sublist (List.filter_sublist.map Prod.fst) ?_
  rw [question.slottedBodies_slots]
  exact question.kind.slots_nodup

/-- What a person scores has general feedback only. -/
theorem Question.feedbackSlots_of_not_autoScored (byPerson : question.kind.autoScored = false) :
    ∀ slot ∈ question.feedbackSlots, slot = .general := by
  have none := QuestionKind.choices_of_not_autoScored byPerson
  simp [Question.feedbackSlots, Question.slottedBodies, QuestionKind.slots,
    FeedbackParts.inItemOrder, Question.feedbackBodies, none, byPerson]

/-- Slots with their bodies, and the blocks that a registry holds for them. -/
abbrev Registry.HoldsBlocks (registry : Registry) (location : Location)
    (slotted : List (FeedbackSlot × Option String)) (blocks : List (Option Identifier)) : Prop :=
  List.Forall₂ (fun slotted block => registry.HoldsBlock location slotted.1 slotted.2 block)
    slotted blocks

variable {slotted : List (FeedbackSlot × Option String)} {blocks : List (Option Identifier)}

theorem QuestionKind.slots_zip {α : Type} (parts : FeedbackParts α)
    (counted : parts.choices.length = kind.choices.length) :
    kind.slots.zip parts.inItemOrder =
      (.correct, parts.correct) :: (.incorrect, parts.incorrect) ::
        ((List.range parts.choices.length).map .choice).zip parts.choices ++
          [(.general, parts.general)] := by
  simp only [QuestionKind.slots, FeedbackParts.inItemOrder, List.cons_append, List.zip_cons_cons]
  rw [List.zip_append (by simp [counted]), counted]
  rfl

theorem choiceSlots_zip {α : Type} (parts : List α) :
    ((List.range parts.length).map FeedbackSlot.choice).zip parts =
      parts.zipIdx.map fun indexed => (.choice indexed.2, indexed.1) := by
  rw [List.zip_map_left, List.zipIdx_eq_zip_range', ← List.range_eq_range', ← List.zip_swap,
    List.map_map]
  rfl

theorem ItemIdentifiers.BoundIn.slottedBodies (bound : issued.BoundIn question location registry) :
    registry.HoldsBlocks location question.slottedBodies issued.blocks.inItemOrder := by
  rw [Question.slottedBodies, QuestionKind.slots_zip _ (List.length_map _), choiceSlots_zip]
  refine .cons bound.blocks.correct (.cons bound.blocks.incorrect ?_)
  refine List.rel_append ?_ (.cons bound.blocks.general .nil)
  exact List.forall₂_map_left_iff.mpr bound.blocks.choices

/-- Where there is a block, there is an outcome that holds it. -/
theorem ItemIdentifiers.BoundIn.held (bound : issued.BoundIn question location registry)
    {block : Option Identifier} (member : block ∈ issued.blocks.inItemOrder)
    (present : block.isSome = true) : issued.feedback.isSome = true := by
  obtain ⟨value, rfl⟩ := Option.isSome_iff_exists.mp present
  exact bound.feedback_isSome_iff.mpr ⟨value, member⟩

theorem Registry.HoldsBlocks.slots (holds : registry.HoldsBlocks location slotted blocks) :
    List.Forall₂ (fun slot block => registry.lookup (.feedback location slot) = some block)
      ((slotted.filter fun slotted => slotted.2.isSome).map Prod.fst) (blocks.filterMap id) := by
  induction holds with
  | nil => exact .nil
  | @cons slotted block _ _ single _ ih =>
      cases block with
      | none => simpa [← single.present] using ih
      | some block => simpa [← single.present, single.bound block rfl] using ih

/-- Choosing among the slots with a body chooses the same among the blocks. -/
theorem Registry.HoldsBlocks.chosen (holds : registry.HoldsBlocks location slotted blocks)
    (chosen : FeedbackSlot → Bool) :
    ((slotted.map Prod.fst).zip blocks).flatMap
        (fun pair => if chosen pair.1 then pair.2.toList else []) =
      ((((slotted.filter fun slotted => slotted.2.isSome).map Prod.fst).zip
        (blocks.filterMap id)).filter fun pair => chosen pair.1).map Prod.snd := by
  induction holds with
  | nil => rfl
  | @cons slotted block _ _ single _ ih =>
      cases block with
      | none => simpa [← single.present] using ih
      | some block =>
          cases due : chosen slotted.1 with
          | false => simpa [← single.present, due] using ih
          | true => simpa [← single.present, due] using ih

/-- The blocks of an item are those issued for its question, with the feedback texts of the question
in their order. -/
theorem Question.feedbackBlocks_parts (bound : issued.BoundIn question location registry) :
    (question.feedbackBlocks issued).map FeedbackBlock.identifier =
        issued.blocks.inItemOrder.filterMap id ∧
      (question.feedbackBlocks issued).map FeedbackBlock.body =
        (question.feedbackBodies.inItemOrder.filterMap id).map (linkAssets question.assets) := by
  have bodies : question.slottedBodies.map Prod.snd = question.feedbackBodies.inItemOrder := by
    refine List.map_snd_zip (Nat.le_of_eq ?_)
    simp [QuestionKind.slots, FeedbackParts.inItemOrder, Question.feedbackBodies]
  have holds := bound.slottedBodies
  unfold Question.feedbackBlocks
  rw [← bodies]
  cases absent : issued.feedback with
  | none =>
      have unheld : ∀ block ∈ issued.blocks.inItemOrder, block = none := by
        intro block member
        cases block with
        | none => rfl
        | some block => simpa [absent] using bound.held member rfl
      dsimp only
      generalize question.slottedBodies = slotted at holds
      generalize issued.blocks.inItemOrder = blocks at holds unheld
      induction holds with
      | nil => exact ⟨rfl, rfl⟩
      | @cons slotted _ _ _ single _ ih =>
          obtain ⟨rfl, others⟩ := List.forall_mem_cons.mp unheld
          have unwritten : slotted.2 = none :=
            Option.not_isSome_iff_eq_none.mp (by simp [← single.present])
          simpa [unwritten] using ih others
  | some outcome =>
      dsimp only
      generalize question.slottedBodies = slotted at holds
      generalize issued.blocks.inItemOrder = blocks at holds
      induction holds with
      | nil => exact ⟨rfl, rfl⟩
      | @cons slotted block _ _ single _ ih =>
          obtain ⟨slot, body⟩ := slotted
          have same := single.present
          cases block <;> cases body <;> simp_all

theorem Question.feedbackBlocks_identifiers (bound : issued.BoundIn question location registry) :
    (question.feedbackBlocks issued).map FeedbackBlock.identifier =
      issued.blocks.inItemOrder.filterMap id :=
  (Question.feedbackBlocks_parts bound).1

theorem zip_flatMap_range {α β γ : Type} (values : List α) (others : List β)
    (convert : Option α → β → List γ) :
    ((List.range values.length).zip others).flatMap (fun pair => convert values[pair.1]? pair.2) =
      (values.zip others).flatMap fun pair => convert (some pair.1) pair.2 := by
  have each : (List.range values.length).map (fun index => values[index]?) =
      values.map some := by
    refine List.ext_getElem (by simp) fun index _ inside => ?_
    simp at inside
    simp [inside]
  have left := congrArg (fun parts => (parts.zip others).flatMap fun pair =>
    convert pair.1 pair.2) each
  simpa [List.zip_map_left, List.flatMap_map] using left

theorem Question.item_isDue_choice (shuffle : Bool) (bound : issued.BoundIn question location registry)
    (response : Response) (index : Nat) :
    (question.item issued (question.synthesis issued) location shuffle).isDue question.kind response
        (.choice index) =
      issued.choices[index]?.any fun choice => response.selects question.kind choice := by
  have offered : (question.item issued (question.synthesis issued) location shuffle).choices.map
      SimpleChoice.identifier = issued.choices := Question.item_choices bound.choices_length
  rw [← offered, List.getElem?_map, Option.any_map]
  rfl

theorem Question.shows_feedbackRules (bound : issued.BoundIn question location registry)
    (filled : ∀ choice ∈ issued.choices, choice.text ≠ "") :
    issued.Shows response (question.feedbackRules issued)
      ((issued.choices.zip issued.blocks.choices).flatMap (fun pair =>
        if response.selects question.kind pair.1 then pair.2.toList else []) ++
      issued.blocks.general.toList) := by
  have choices : issued.Shows response _ _ := question.kind.shows_allChoiceRules bound.distinct
    (issued.choices.zip issued.blocks.choices)
    (fun pair member => filled pair.1 (List.of_mem_zip member).1)
    (fun pair member => bound.held (by simp [FeedbackParts.inItemOrder, (List.of_mem_zip member).2]))
  have general : issued.Shows response (issued.shown issued.blocks.general)
      issued.blocks.general.toList :=
    ItemIdentifiers.shows_shown bound.distinct (bound.held (by simp [FeedbackParts.inItemOrder]))
  exact choices.append general

/-- The first rule shows the block on correct responses or that on incorrect ones. -/
theorem Question.scoringRules_shown (decisive : question.kind.Decisive)
    (bound : issued.BoundIn question location registry) (response : Response) :
    (runRules (question.scoringRules issued)
      ((question.synthesis issued).start response)).feedback =
        ((if (question.synthesis issued).isMet response then issued.blocks.correct.toList else []) ++
          if !(question.synthesis issued).isMet response then issued.blocks.incorrect.toList
          else []).map Identifier.text := by
  cases scored : question.kind.autoScored with
  | true =>
      rw [Question.scoringRules_feedback decisive bound.distinct bound.choices_length scored
        response (bound.held (by simp [FeedbackParts.inItemOrder]))
        (bound.held (by simp [FeedbackParts.inItemOrder]))]
      cases (question.synthesis issued).isMet response <;> simp
  | false =>
      have condition := QuestionKind.condition?_isSome decisive bound.choices_length
      have incorrect := bound.blocks.incorrect.present
      rw [scored, Option.isSome_eq_false_iff, Option.isNone_iff_eq_none] at condition
      simp only [Question.feedbackBodies, scored] at incorrect
      simp at incorrect
      rw [Question.isMet_of_not_autoScored decisive bound.choices_length scored,
        Question.scoringRules, condition, incorrect]
      rfl

/-- What is shown are the blocks whose slots are due. -/
theorem Question.score_feedback (shuffle : Bool) (decisive : question.kind.Decisive)
    (bound : issued.BoundIn question location registry)
    (filled : ∀ choice ∈ issued.choices, choice.text ≠ "") (response : Response) :
    ((question.synthesis issued).score response).feedback =
      ((question.kind.slots.zip issued.blocks.inItemOrder).flatMap fun pair =>
        if (question.item issued (question.synthesis issued) location shuffle).isDue question.kind
          response pair.1 then pair.2.toList else []).map Identifier.text := by
  have serves := start_serves question issued response
  have whole : ((question.synthesis issued).score response).feedback =
      (runRules (question.feedbackRules issued) (runRules (question.scoringRules issued)
        ((question.synthesis issued).start response))).feedback := by
    rw [← runRules_append, ← Question.rules_eq]
    rfl
  have counted : issued.blocks.choices.length = question.kind.choices.length := by
    rw [← bound.blocks.choices.length_eq, List.length_zipIdx]
    exact List.length_map _
  have choices := zip_flatMap_range issued.choices issued.blocks.choices fun choice block =>
    if choice.any (fun choice => response.selects question.kind choice) then block.toList else []
  simp only [← Question.item_isDue_choice shuffle bound response, Option.any_some] at choices
  rw [whole, Question.shows_feedbackRules bound filled _ (serves.runRules _),
    Question.scoringRules_shown decisive bound response, QuestionKind.slots_zip _ counted,
    ← List.map_append, ← choices, counted, bound.choices_length]
  simp only [List.flatMap_cons, List.flatMap_append, List.flatMap_nil, List.cons_append,
    List.zip_map_left, List.flatMap_map, Prod.map, id_eq, Item.isDue, if_true, List.append_nil,
    List.append_assoc]
  rfl

/-- An item has a block for each slot of its question with a text. A response is shown the blocks
whose slots are due, each once and in their order. -/
theorem built_item_shows_due_feedback (reachable : registry.Reachable)
    (ran : buildItem question location shuffle registry = .ok item after) (response : Response) :
    let slots := question.feedbackSlots
    let blocks := item.feedback.map FeedbackBlock.identifier
    let shown := (item.synthesis.score response).feedback
    item.choices.length = question.kind.choices.length ∧
      List.Forall₂ (fun slot block => after.lookup (.feedback location slot) = some block)
        slots blocks ∧
      shown = ((slots.zip blocks).filter fun pair =>
        item.isDue question.kind response pair.1).map (fun pair => pair.2.text) ∧
      shown.Nodup ∧
      (question.kind.autoScored = false → ∀ slot ∈ slots, slot = .general) := by
  obtain ⟨fine, issued, bound, rfl⟩ := buildItem_ok ran
  have sound := ((buildItem_within question location shuffle).reaches ran).sound reachable.sound
  have decisive := (Question.problem?_eq_none_iff.mp fine).1.decisive
  have offered : (question.item issued (question.synthesis issued) location shuffle).choices.map
      SimpleChoice.identifier = issued.choices := Question.item_choices bound.choices_length
  have slots := bound.slottedBodies.slots
  have shown := Question.score_feedback shuffle decisive bound (bound.choices_ne_empty sound)
    response
  rw [← question.slottedBodies_slots, bound.slottedBodies.chosen, List.map_map] at shown
  rw [← Question.feedbackBlocks_identifiers bound] at slots shown
  refine ⟨?_, slots, shown, ?_, Question.feedbackSlots_of_not_autoScored⟩
  · rw [← bound.choices_length, ← offered, List.length_map]
  · have distinct := sound.lookups_nodup (fun _ _ equal => (Entity.feedback.inj equal).2) slots
      question.feedbackSlots_nodup
    have zipped := List.map_snd_zip (Nat.le_of_eq slots.length_eq.symm)
    rw [← zipped] at distinct
    change ((question.synthesis issued).score response).feedback.Nodup
    rw [shown, ← List.map_map]
    exact (distinct.sublist (List.filter_sublist.map Prod.snd)).map
      Identifier.text_injective

def seasons : Question :=
  { title := some "Seasons"
    prompt := "<p>When do the leaves fall?</p>"
    points := 0.0
    kind := .singleChoice [
      ⟨"", "Spring", false, some "They grow"⟩,
      ⟨"", "Autumn", true, some "They fall"⟩,
      ⟨"", "Winter", false, some " "⟩]
    feedback := ⟨some "Trees", some "Yes", some "No"⟩
    assets := [] }

theorem seasons_show_due_feedback :
    ∃ item after, buildItem seasons (.inGroup 1 0) false (Registry.empty "" false) =
        .ok item after ∧
      item.feedback.map FeedbackBlock.identifier =
        [⟨"feedback_2"⟩, ⟨"feedback_3"⟩, ⟨"feedback_4"⟩, ⟨"feedback_5"⟩, ⟨"feedback"⟩] ∧
      (item.synthesis.score (.text "choice_2")).feedback =
        ["feedback_2", "feedback_5", "feedback"] ∧
      (item.synthesis.score (.identifiers ["choice"])).feedback = ["feedback_3", "feedback"] := by
  have fine : seasons.problem? (.inGroup 1 0) = none :=
    Option.isNone_iff_eq_none.mp (by decide +kernel)
  have lenient : (Registry.empty "" false).strict = false := rfl
  obtain ⟨item, after, ran⟩ := Issuing.verdict_eq_none.mp
    ((buildItem_verdict lenient seasons (.inGroup 1 0) false).trans fine)
  have shown := fun response =>
    (built_item_shows_due_feedback ⟨"", false, .refl _⟩ ran response).2.2.1
  let due (item : Item) (response : Response) : List String :=
    ((seasons.feedbackSlots.zip (item.feedback.map FeedbackBlock.identifier)).filter fun pair =>
      item.isDue seasons.kind response pair.1).map fun pair => pair.2.text
  have computed : (match buildItem seasons (.inGroup 1 0) false (Registry.empty "" false) with
      | .ok item _ => (item.feedback.map FeedbackBlock.identifier, due item (.text "choice_2"),
          due item (.identifiers ["choice"]))
      | .error _ _ => ([], [], [])) =
      ([⟨"feedback_2"⟩, ⟨"feedback_3"⟩, ⟨"feedback_4"⟩, ⟨"feedback_5"⟩, ⟨"feedback"⟩],
        ["feedback_2", "feedback_5", "feedback"], ["feedback_3", "feedback"]) := by
    decide +kernel
  rw [ran] at computed
  obtain ⟨blocks, both⟩ := Prod.mk.inj computed
  obtain ⟨right, wrong⟩ := Prod.mk.inj both
  exact ⟨item, after, ran, blocks, (shown _).trans right, (shown _).trans wrong⟩

end QuizPackage
