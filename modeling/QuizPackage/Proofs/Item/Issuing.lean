import QuizPackage.Item.Issuing
import QuizPackage.Proofs.Identifier.Steps

namespace QuizPackage

inductive Entity.IsPartOf (location : Location) : Entity → Prop
  | question : IsPartOf location (.question location)
  | choice (index : Nat) : IsPartOf location (.choice location index)
  | feedback (slot : FeedbackSlot) : IsPartOf location (.feedback location slot)

structure Registry.HoldsBlock (registry : Registry) (location : Location) (slot : FeedbackSlot)
    (body : Option String) (block : Option Identifier) : Prop where
  present : block.isSome = body.isSome
  bound : ∀ identifier ∈ block, registry.lookup (.feedback location slot) = some identifier

/-- Every block of a question is present as its body is, and is bound to its slot. -/
structure FeedbackParts.BoundIn (blocks : FeedbackParts Identifier)
    (bodies : FeedbackParts String) (location : Location) (registry : Registry) : Prop where
  general : registry.HoldsBlock location .general bodies.general blocks.general
  correct : registry.HoldsBlock location .correct bodies.correct blocks.correct
  incorrect : registry.HoldsBlock location .incorrect bodies.incorrect blocks.incorrect
  choices : List.Forall₂
    (fun indexed block => registry.HoldsBlock location (.choice indexed.2) indexed.1 block)
    bodies.choices.zipIdx blocks.choices

def ItemIdentifiers.variables (identifiers : ItemIdentifiers) : List Identifier :=
  identifiers.response :: identifiers.score :: identifiers.feedback.toList

/-- What holds of the identifiers of a question once they are issued. -/
structure ItemIdentifiers.BoundIn (identifiers : ItemIdentifiers) (question : Question)
    (location : Location) (registry : Registry) : Prop where
  item : registry.lookup (.question location) = some identifiers.item
  owned : ∀ name ∈ identifiers.variables, registry.isVariableOf identifiers.item name = true
  distinct : identifiers.variables.Nodup
  feedback : identifiers.feedback.isNone = identifiers.blocks.isEmpty
  choices : List.Forall₂
    (fun index choice => registry.lookup (.choice location index) = some choice)
    (List.range question.kind.choices.length) identifiers.choices
  blocks : identifiers.blocks.BoundIn question.feedbackBodies location registry

variable {registry before after : Registry} {permitted : Entity → Prop} {location : Location}
  {question : Question} {owner : Identifier}

theorem Registry.HoldsBlock.mono {slot : FeedbackSlot} {body : Option String}
    {block : Option Identifier} (holds : before.HoldsBlock location slot body block)
    (reaches : before.Reaches permitted after) : after.HoldsBlock location slot body block :=
  ⟨holds.present, fun identifier member =>
    reaches.lookup_eq_some (holds.bound identifier member)⟩

theorem FeedbackParts.BoundIn.mono {blocks : FeedbackParts Identifier}
    {bodies : FeedbackParts String} (bound : blocks.BoundIn bodies location before)
    (reaches : before.Reaches permitted after) : blocks.BoundIn bodies location after where
  general := bound.general.mono reaches
  correct := bound.correct.mono reaches
  incorrect := bound.incorrect.mono reaches
  choices := bound.choices.imp fun _ _ holds => holds.mono reaches

theorem ItemIdentifiers.BoundIn.mono {identifiers : ItemIdentifiers}
    (bound : identifiers.BoundIn question location before)
    (reaches : before.Reaches permitted after) : identifiers.BoundIn question location after where
  item := reaches.lookup_eq_some bound.item
  owned := fun name member => reaches.isVariableOf (bound.owned name member)
  distinct := bound.distinct
  feedback := bound.feedback
  choices := bound.choices.imp fun _ _ known => reaches.lookup_eq_some known
  blocks := bound.blocks.mono reaches

theorem issueBlock_within (location : Location) (slot : FeedbackSlot) (body : Option String) :
    (issueBlock location slot body).Within (Entity.IsPartOf location) := by
  cases body with
  | none => exact .pure none
  | some body => exact (issueFor_within _ _ _ (.feedback slot)).map some

theorem issueBlock_ok {slot : FeedbackSlot} {body : Option String} {block : Option Identifier}
    (ran : issueBlock location slot body registry = .ok block after) :
    after.HoldsBlock location slot body block := by
  cases body with
  | none =>
      cases ran
      exact ⟨rfl, by simp⟩
  | some body =>
      obtain ⟨identifier, issued, rfl⟩ := Issuing.map_ok.mp ran
      refine ⟨rfl, fun other member => ?_⟩
      cases member
      exact issueFor_ok issued

theorem issueBlocks_within (location : Location) (bodies : FeedbackParts String) :
    (issueBlocks location bodies).Within (Entity.IsPartOf location) := by
  refine (issueBlock_within _ _ _).bind fun general => ?_
  refine (issueBlock_within _ _ _).bind fun correct => ?_
  refine (issueBlock_within _ _ _).bind fun incorrect => ?_
  refine (Issuing.Within.mapM _ fun indexed _ => issueBlock_within _ _ _).bind fun choices => ?_
  exact .pure _

theorem issueBlocks_ok {bodies : FeedbackParts String} {blocks : FeedbackParts Identifier}
    (ran : issueBlocks location bodies registry = .ok blocks after) :
    blocks.BoundIn bodies location after := by
  obtain ⟨general, first, one, ran⟩ := Issuing.bind_ok.mp ran
  obtain ⟨correct, second, two, ran⟩ := Issuing.bind_ok.mp ran
  obtain ⟨incorrect, third, three, ran⟩ := Issuing.bind_ok.mp ran
  obtain ⟨choices, last, four, ran⟩ := Issuing.bind_ok.mp ran
  cases ran
  have within := fun indexed (_ : indexed ∈ bodies.choices.zipIdx) =>
    issueBlock_within location (.choice indexed.2) indexed.1
  have toThird := (issueBlock_within _ _ _).reaches three
  have toLast := (Issuing.Within.mapM _ within).reaches four
  have fromSecond := toThird.trans toLast
  have fromFirst := ((issueBlock_within _ _ _).reaches two).trans fromSecond
  exact {
    general := (issueBlock_ok one).mono fromFirst
    correct := (issueBlock_ok two).mono fromSecond
    incorrect := (issueBlock_ok three).mono toLast
    choices := Issuing.mapM_ok _ within (fun _ _ _ _ reaches holds => holds.mono reaches)
      (fun _ _ _ _ _ _ issued => issueBlock_ok issued) four }

theorem issueChoices_within (location : Location) (count : Nat) :
    ((List.range count).mapM fun index =>
      issueFor (.choice location index) .choice none).Within (Entity.IsPartOf location) :=
  Issuing.Within.mapM _ fun index _ => issueFor_within _ _ _ (Entity.IsPartOf.choice index)

theorem issueChoices_ok {count : Nat} {choices : List Identifier}
    (ran : (List.range count).mapM (fun index => issueFor (.choice location index) .choice none)
      registry = .ok choices after) :
    List.Forall₂ (fun index choice => after.lookup (.choice location index) = some choice)
      (List.range count) choices :=
  Issuing.mapM_ok
    (fun index choice registry => registry.lookup (.choice location index) = some choice)
    (fun index _ => issueFor_within _ _ _ (Entity.IsPartOf.choice index))
    (fun _ _ _ _ reaches known => reaches.lookup_eq_some known)
    (fun _ _ _ _ _ _ issued => issueFor_ok issued) ran

/-- The outcome of the feedback, which is a variable if there are blocks. -/
def issueFeedback (item : Identifier) (blocks : FeedbackParts Identifier) :
    Issuing (Option Identifier) :=
  if blocks.isEmpty then pure none else some <$> issueVariable item "FEEDBACK"

/-- What is issued for a question besides the identifier of its item. -/
def issueParts (question : Question) (location : Location) (item : Identifier) :
    Issuing ItemIdentifiers := do
  let response ← issueVariable item "RESPONSE"
  let score ← issueVariable item "SCORE"
  let choices ← (List.range question.kind.choices.length).mapM fun index =>
    issueFor (.choice location index) .choice none
  let blocks ← issueBlocks location question.feedbackBodies
  let feedback ← issueFeedback item blocks
  return ⟨item, response, score, feedback, choices, blocks⟩

theorem issueItemIdentifiers_eq (question : Question) (location : Location) :
    issueItemIdentifiers question location =
      issueFor (.question location) .item question.title >>= issueParts question location := by
  unfold issueItemIdentifiers issueParts issueFeedback
  refine bind_congr fun item => bind_congr fun response => bind_congr fun score => ?_
  refine bind_congr fun choices => bind_congr fun blocks => ?_
  cases blocks.isEmpty <;> rfl

theorem issueFeedback_within (item : Identifier) (blocks : FeedbackParts Identifier) :
    (issueFeedback item blocks).Within permitted := by
  unfold issueFeedback
  split
  · exact .pure none
  · exact (issueVariable_within _ _).map some

theorem issueFeedback_ok {item : Identifier} {blocks : FeedbackParts Identifier}
    {feedback : Option Identifier} (ran : issueFeedback item blocks registry = .ok feedback after) :
    feedback.isNone = blocks.isEmpty ∧ ∀ name ∈ feedback,
      registry.isVariableOf item name = false ∧ after.isVariableOf item name = true := by
  unfold issueFeedback at ran
  split at ran
  · rename_i empty
    cases ran
    exact ⟨empty.symm, by simp⟩
  · rename_i occupied
    obtain ⟨name, issued, rfl⟩ := Issuing.map_ok.mp ran
    refine ⟨by simpa using occupied, fun other member => ?_⟩
    cases member
    exact issueVariable_ok issued

theorem issueParts_within (question : Question) (location : Location) (item : Identifier) :
    (issueParts question location item).Within (Entity.IsPartOf location) := by
  refine (issueVariable_within _ _).bind fun response => ?_
  refine (issueVariable_within _ _).bind fun score => ?_
  refine (issueChoices_within _ _).bind fun choices => ?_
  refine (issueBlocks_within _ _).bind fun blocks => ?_
  refine (issueFeedback_within _ _).bind fun feedback => ?_
  exact .pure _

theorem issueItemIdentifiers_within (question : Question) (location : Location) :
    (issueItemIdentifiers question location).Within (Entity.IsPartOf location) := by
  rw [issueItemIdentifiers_eq]
  exact (issueFor_within _ _ _ .question).bind (issueParts_within question location)

/-- A variable that its owner has already is not one that is new to it. -/
theorem Registry.variable_ne {first second : Identifier}
    (owned : registry.isVariableOf owner first = true)
    (fresh : registry.isVariableOf owner second = false) : first ≠ second := by
  rintro rfl
  rw [owned] at fresh
  cases fresh

theorem ItemIdentifiers.variables_nodup {identifiers : ItemIdentifiers}
    (score : identifiers.response ≠ identifiers.score)
    (feedback : ∀ name ∈ identifiers.feedback,
      identifiers.response ≠ name ∧ identifiers.score ≠ name) :
    identifiers.variables.Nodup := by
  simp only [ItemIdentifiers.variables, List.nodup_cons, List.mem_cons, Option.mem_toList, not_or]
  refine ⟨⟨score, fun member => (feedback _ member).1 rfl⟩,
    fun member => (feedback _ member).2 rfl, ?_⟩
  cases identifiers.feedback <;> simp

/-- The identifiers that are issued for a question are bound to it. -/
theorem issueItemIdentifiers_ok {identifiers : ItemIdentifiers}
    (ran : issueItemIdentifiers question location registry = .ok identifiers after) :
    identifiers.BoundIn question location after := by
  rw [issueItemIdentifiers_eq] at ran
  obtain ⟨item, first, one, ran⟩ := Issuing.bind_ok.mp ran
  obtain ⟨response, second, two, ran⟩ := Issuing.bind_ok.mp ran
  obtain ⟨score, third, three, ran⟩ := Issuing.bind_ok.mp ran
  obtain ⟨choices, fourth, four, ran⟩ := Issuing.bind_ok.mp ran
  obtain ⟨blocks, fifth, five, ran⟩ := Issuing.bind_ok.mp ran
  obtain ⟨feedback, last, six, ran⟩ := Issuing.bind_ok.mp ran
  cases ran
  -- What each step leaves bound is still bound when the last has run.
  have toLast : fifth.Reaches (Entity.IsPartOf location) after :=
    (issueFeedback_within _ _).reaches six
  have fromFourth := ((issueBlocks_within _ _).reaches five).trans toLast
  have toFifth := ((issueChoices_within _ _).reaches four).trans
    ((issueBlocks_within _ _).reaches five)
  have fromSecond := ((issueVariable_within _ _).reaches three).trans (toFifth.trans toLast)
  have fromFirst := ((issueVariable_within _ _).reaches two).trans fromSecond
  obtain ⟨_, responseOwned⟩ := issueVariable_ok two
  obtain ⟨scoreFresh, scoreOwned⟩ := issueVariable_ok three
  obtain ⟨feedbackPresent, feedbackOwned⟩ := issueFeedback_ok six
  have responseBefore := (((issueVariable_within _ _).reaches three).trans
    toFifth).isVariableOf responseOwned
  have scoreBefore := toFifth.isVariableOf scoreOwned
  exact {
    item := fromFirst.lookup_eq_some (issueFor_ok one)
    owned := by
      simp only [ItemIdentifiers.variables, List.forall_mem_cons, Option.mem_toList]
      exact ⟨fromSecond.isVariableOf responseOwned, toLast.isVariableOf scoreBefore,
        fun name member => (feedbackOwned name member).2⟩
    distinct := ItemIdentifiers.variables_nodup (Registry.variable_ne responseOwned scoreFresh)
      fun name member => ⟨Registry.variable_ne responseBefore (feedbackOwned name member).1,
        Registry.variable_ne scoreBefore (feedbackOwned name member).1⟩
    feedback := feedbackPresent
    choices := (issueChoices_ok four).imp fun _ _ known => fromFourth.lookup_eq_some known
    blocks := (issueBlocks_ok five).mono toLast }

theorem ItemIdentifiers.BoundIn.choices_length {identifiers : ItemIdentifiers}
    (bound : identifiers.BoundIn question location registry) :
    identifiers.choices.length = question.kind.choices.length := by
  rw [← bound.choices.length_eq, List.length_range]

theorem ItemIdentifiers.BoundIn.choices_nodup {identifiers : ItemIdentifiers}
    (bound : identifiers.BoundIn question location registry) (sound : registry.Sound) :
    identifiers.choices.Nodup :=
  sound.lookups_nodup (fun _ _ equal => (Entity.choice.inj equal).2) bound.choices List.nodup_range

theorem ItemIdentifiers.BoundIn.choices_ne_empty {identifiers : ItemIdentifiers}
    (bound : identifiers.BoundIn question location registry) (sound : registry.Sound) :
    ∀ choice ∈ identifiers.choices, choice.text ≠ "" := by
  intro choice member
  obtain ⟨index, _, known⟩ := exists_of_forall₂_right bound.choices member
  exact sound.lookup_ne_empty known

theorem issueBlock_sure (location : Location) (slot : FeedbackSlot) (body : Option String) :
    (issueBlock location slot body).Sure := by
  cases body with
  | none => exact .pure none
  | some body => exact (issueFor_sure _ _).map some

theorem issueBlocks_sure (location : Location) (bodies : FeedbackParts String) :
    (issueBlocks location bodies).Sure := by
  refine (issueBlock_sure _ _ _).bind fun general => ?_
  refine (issueBlock_sure _ _ _).bind fun correct => ?_
  refine (issueBlock_sure _ _ _).bind fun incorrect => ?_
  refine (Issuing.Sure.mapM _ fun indexed => issueBlock_sure _ _ _).bind fun choices => ?_
  exact .pure _

theorem issueFeedback_sure (item : Identifier) (blocks : FeedbackParts Identifier) :
    (issueFeedback item blocks).Sure := by
  unfold issueFeedback
  split
  · exact .pure none
  · exact (issueVariable_sure _ _).map some

/-- Only the call for the title of a question can be refused. -/
theorem issueParts_sure (question : Question) (location : Location) (item : Identifier) :
    (issueParts question location item).Sure := by
  refine (issueVariable_sure _ _).bind fun response => ?_
  refine (issueVariable_sure _ _).bind fun score => ?_
  refine (Issuing.Sure.mapM _ fun index => issueFor_sure _ _).bind fun choices => ?_
  refine (issueBlocks_sure _ _).bind fun blocks => ?_
  refine (issueFeedback_sure _ _).bind fun feedback => ?_
  exact .pure _

/-- Without strictness, the identifiers of a question are always issued. -/
theorem issueItemIdentifiers_lenient (question : Question) (location : Location) :
    (issueItemIdentifiers question location).Lenient := by
  rw [issueItemIdentifiers_eq]
  exact (issueFor_lenient _ _ _).bind fun item =>
    (issueParts_sure _ _ _).lenient (issueParts_within question location item)

end QuizPackage
