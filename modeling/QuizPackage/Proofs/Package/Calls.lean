import QuizPackage.Proofs.Identifier.Strictness
import QuizPackage.Proofs.Package.Planned

namespace QuizPackage

def blockCalls (location : Location) (slot : FeedbackSlot) (body : Option String) : List Call :=
  body.toList.map fun _ => ⟨.feedback location slot, .feedback, none⟩

def FeedbackParts.calls (bodies : FeedbackParts String) (location : Location) : List Call :=
  blockCalls location .general bodies.general ++ blockCalls location .correct bodies.correct ++
    blockCalls location .incorrect bodies.incorrect ++
    bodies.choices.zipIdx.flatMap fun (body, index) => blockCalls location (.choice index) body

def choiceCalls (location : Location) (count : Nat) : List Call :=
  (List.range count).map fun index => ⟨.choice location index, .choice, none⟩

def Piece.calls : Piece → List Call
  | .question location single =>
      ⟨.question location, .item, single.title⟩ ::
        choiceCalls location single.kind.choices.length ++ single.feedbackBodies.calls location
  | .text entry region => [⟨.text entry, .textItem, region.title⟩]

def Entry.groupCalls (index : Nat) : Entry → List Call
  | .group pool => [⟨.group index, .testSection, pool.title⟩]
  | .question _ | .text _ => []

def Quiz.testCalls (quiz : Quiz) : List Call :=
  [⟨.test, .test, some quiz.title⟩, ⟨.testPart, .testPart, none⟩,
    ⟨.rootSection, .testSection, some "main_section"⟩] ++
    quiz.entries.zipIdx.flatMap fun (entry, index) => entry.groupCalls index

/-- The calls for the items and the test of a quiz. -/
def Quiz.calls (quiz : Quiz) : List Call :=
  quiz.pieces.flatMap Piece.calls ++ quiz.testCalls

/-- Builds the items and the test. -/
def buildDocuments (quiz : Quiz) (shuffle : Bool) : Issuing (List Item × Test) := do
  let items ← quiz.pieces.mapM (buildPiece shuffle)
  let test ← buildTest quiz
  return (items, test)

variable {quiz : Quiz} {registry after : Registry} {location : Location} {question : Question}
  {calls more : List Call} {shuffle : Bool} {problem : Problem} {α β : Type}

theorem buildAll_eq (quiz : Quiz) (assets : AssetMap) (shuffle : Bool) :
    buildAll quiz assets shuffle = buildDocuments quiz shuffle >>= fun documents =>
      (fun manifest => (documents.1, documents.2, manifest)) <$>
        buildManifest quiz documents.2 documents.1 assets := by
  unfold buildAll buildDocuments
  simp only [bind_assoc, pure_bind, map_eq_pure_bind]

theorem Issuing.Asks.cast {step : Issuing α} (asks : step.Asks calls) (same : calls = more) :
    step.Asks more :=
  same ▸ asks

theorem Issuing.Asks.quiet {step : Issuing α} {next : α → Issuing β} (first : step.Asks calls)
    (second : ∀ value, (next value).Asks []) : (step >>= next).Asks calls :=
  (first.bind second).cast (List.append_nil calls)

theorem issueBlock_asks (location : Location) (slot : FeedbackSlot) (body : Option String) :
    (issueBlock location slot body).Asks (blockCalls location slot body) := by
  cases body with
  | none => exact .pure none
  | some body => exact (Issuing.Asks.issueFor ⟨.feedback location slot, .feedback, none⟩).map some

theorem issueBlocks_asks (location : Location) (bodies : FeedbackParts String) :
    (issueBlocks location bodies).Asks (bodies.calls location) := by
  have each (indexed : Option String × Nat) :
      (issueBlock location (.choice indexed.2) indexed.1).Asks
        (blockCalls location (.choice indexed.2) indexed.1) := issueBlock_asks _ _ _
  refine ((issueBlock_asks _ _ _).bind fun general => (issueBlock_asks _ _ _).bind fun correct =>
    (issueBlock_asks _ _ _).bind fun incorrect => (Issuing.Asks.mapM each).quiet fun choices =>
      .pure _).cast ?_
  simp [FeedbackParts.calls]

theorem issueFeedback_asks (item : Identifier) (blocks : FeedbackParts Identifier) :
    (issueFeedback item blocks).Asks [] := by
  unfold issueFeedback
  split
  · exact .pure none
  · exact (Issuing.Asks.issueVariable _ _).map some

theorem issueItemIdentifiers_asks (question : Question) (location : Location) :
    (issueItemIdentifiers question location).Asks (Piece.question location question).calls := by
  have each (index : Nat) : (issueFor (.choice location index) .choice none).Asks
      [⟨.choice location index, .choice, none⟩] := .issueFor ⟨_, _, _⟩
  rw [issueItemIdentifiers_eq]
  refine ((Issuing.Asks.issueFor ⟨.question location, .item, question.title⟩).bind fun item =>
    (Issuing.Asks.issueVariable _ _).bind fun response =>
    (Issuing.Asks.issueVariable _ _).bind fun score =>
    (Issuing.Asks.mapM each).bind fun choices =>
    (issueBlocks_asks _ _).quiet fun blocks => ?_).cast ?_
  · exact (issueFeedback_asks _ _).quiet fun feedback => .pure _
  · simp [Piece.calls, choiceCalls, List.map_eq_flatMap]

theorem checkedItem_asks (names : List String) (item : Item) :
    (checkedItem names item).Asks [] := by
  unfold checkedItem
  split
  · exact .stop _ not_false
  · split
    · exact .stop _ not_false
    · exact .pure item

theorem synthesize_not_isDuplicateHint {identifiers : ItemIdentifiers}
    (failed : synthesize question identifiers location = .error problem) :
    ¬problem.IsDuplicateHint := by
  unfold synthesize at failed
  dsimp only at failed
  split at failed
  · cases failed
    exact not_false
  split at failed
  · cases failed
    exact not_false
  split at failed
  · cases failed
    exact not_false
  · cases failed

theorem buildItem_asks (question : Question) (location : Location) (shuffle : Bool) :
    (buildItem question location shuffle).Asks (Piece.question location question).calls := by
  rw [buildItem_eq]
  refine (issueItemIdentifiers_asks _ _).quiet fun identifiers => ?_
  unfold Question.finish
  cases made : synthesize question identifiers location with
  | error problem => exact .stop _ (synthesize_not_isDuplicateHint made)
  | ok synthesis => exact checkedItem_asks _ _

theorem buildPiece_asks (shuffle : Bool) (piece : Piece) :
    (buildPiece shuffle piece).Asks piece.calls := by
  cases piece with
  | question location single => exact buildItem_asks single location shuffle
  | text entry region =>
      refine (Issuing.Asks.issueFor ⟨.text entry, .textItem, region.title⟩).quiet
        fun identifier => ?_
      exact (Issuing.Asks.issueVariable _ _).quiet fun score => checkedItem_asks _ _

theorem builtItem_eq (entity : Entity) :
    builtItem entity = lookUp entity >>= fun known =>
      match known with
      | some identifier => pure (.to identifier)
      | none => Issuing.stop (.integrity (.missingItem entity)) := by
  funext registry
  change _ = EStateM.bind (lookUp entity) _ registry
  unfold builtItem EStateM.bind lookUp
  cases registry.lookup entity <;> rfl

theorem builtItem_asks (entity : Entity) : (builtItem entity).Asks [] := by
  rw [builtItem_eq]
  refine (Issuing.Asks.lookUp entity).quiet fun known => ?_
  cases known with
  | none => exact .stop _ not_false
  | some identifier => exact .pure _

theorem buildGroup_asks (pool : Group) (entry : Nat) :
    (buildGroup pool entry).Asks ((Entry.group pool).groupCalls entry) := by
  have first : (Issuing.attempt (pool.problem? entry) ()).Asks [] := by
    unfold Group.problem?
    split
    · exact .pure ()
    · exact .stop _ not_false
  have each (member : Nat) : (builtItem (.question (.inGroup entry member))).Asks [] :=
    builtItem_asks _
  rw [buildGroup_eq]
  refine (first.bind fun _ => (Issuing.Asks.issueFor ⟨.group entry, .testSection, pool.title⟩).bind
    fun identifier => (Issuing.Asks.mapM each).quiet fun items => .pure _).cast ?_
  simp [Entry.groupCalls]

theorem buildPart_asks (entry : Entry) (index : Nat) :
    (buildPart entry index).Asks (entry.groupCalls index) := by
  cases entry with
  | question single => exact (builtItem_asks _).map _
  | text region => exact (builtItem_asks _).map _
  | group pool => exact (buildGroup_asks pool index).map _

theorem buildTest_asks (quiz : Quiz) : (buildTest quiz).Asks quiz.testCalls := by
  have each (indexed : Entry × Nat) :
      (buildPart indexed.1 indexed.2).Asks (indexed.1.groupCalls indexed.2) := buildPart_asks _ _
  refine ((Issuing.Asks.issueFor ⟨.test, .test, some quiz.title⟩).bind fun identifier =>
    (Issuing.Asks.issueVariable _ _).bind fun score =>
    (Issuing.Asks.issueFor ⟨.testPart, .testPart, none⟩).bind fun part =>
    (Issuing.Asks.issueFor ⟨.rootSection, .testSection, some "main_section"⟩).bind
      fun rootSection => (Issuing.Asks.mapM each).quiet fun parts => .pure _).cast ?_
  simp [Quiz.testCalls]

theorem buildDocuments_asks (quiz : Quiz) (shuffle : Bool) :
    (buildDocuments quiz shuffle).Asks quiz.calls :=
  (Issuing.Asks.mapM fun piece => buildPiece_asks shuffle piece).bind fun _ =>
    (buildTest_asks quiz).quiet fun _ => .pure _

def assetCall (name : String) : Call :=
  ⟨.asset name, .asset, some name⟩

def Quiz.manifestCalls (quiz : Quiz) (items : List Item) : List Call :=
  ⟨.manifest, .manifest, some (quiz.title ++ "_manifest")⟩ ::
    items.flatMap fun item => item.assets.map assetCall

theorem listAsset_eq (assets : AssetMap) (item : Identifier) (name : String) :
    listAsset assets item name =
      match assets.lookup name with
      | none => Issuing.stop (.integrity (.missingAsset item name))
      | some asset => lookUp (.asset name) >>= fun known =>
          issueFor (.asset name) .asset (some name) >>= fun identifier =>
            pure (identifier, if known.isSome then []
              else [⟨identifier, .asset, assetPath name, [], [], some asset.mediaType⟩]) := by
  unfold listAsset
  cases assets.lookup name with
  | none => rfl
  | some asset =>
      funext registry
      change EStateM.bind get _ registry = EStateM.bind (lookUp _) _ registry
      unfold EStateM.bind lookUp
      change (match registry.lookup (.asset name) with
        | some identifier => pure (identifier, [])
        | none => _ : Issuing (Identifier × List Resource)) registry = _
      cases known : registry.lookup (.asset name) with
      | none => rfl
      | some identifier =>
          change _ = EStateM.bind (issueFor _ _ _) _ registry
          unfold EStateM.bind issueFor
          rw [known]
          rfl

theorem listAsset_asks (assets : AssetMap) (item : Identifier) (name : String) :
    (listAsset assets item name).Asks [assetCall name] := by
  rw [listAsset_eq]
  cases assets.lookup name with
  | none => exact .stop _ not_false
  | some asset =>
      exact (Issuing.Asks.lookUp _).bind fun known =>
        (Issuing.Asks.issueFor (assetCall name)).quiet fun identifier => .pure _

theorem listItem_asks (assets : AssetMap) (item : Item) :
    (listItem assets item).Asks (item.assets.map assetCall) := by
  rw [List.map_eq_flatMap]
  exact (Issuing.Asks.mapM (listAsset_asks assets item.identifier)).quiet fun listed => .pure _

theorem buildManifest_asks (quiz : Quiz) (test : Test) (items : List Item) (assets : AssetMap) :
    (buildManifest quiz test items assets).Asks (quiz.manifestCalls items) :=
  (Issuing.Asks.issueFor ⟨.manifest, .manifest, some (quiz.title ++ "_manifest")⟩).bind
    fun _ => (Issuing.Asks.mapM (listItem_asks assets)).quiet fun _ => .pure _

theorem Quiz.manifestCalls_untitled (quiz : Quiz) (items : List Item) :
    ∀ call ∈ quiz.manifestCalls items, call.titled? = none := by
  intro call member
  rcases List.mem_cons.mp member with rfl | member
  · rfl
  · obtain ⟨item, _, listed⟩ := List.mem_flatMap.mp member
    obtain ⟨name, _, rfl⟩ := List.mem_map.mp listed
    rfl

def Piece.titled? : Piece → Option Titled
  | .question location single => (Entity.question location).titled? .item single.title
  | .text entry region => (Entity.text entry).titled? .textItem region.title

def Entry.titledGroup? (index : Nat) : Entry → Option Titled
  | .group pool => (Entity.group index).titled? .testSection pool.title
  | .question _ | .text _ => none

/-- The questions, regions of text and groups of whose titles something is left, in the order in
which their identifiers are issued. -/
def Quiz.titled (quiz : Quiz) : List Titled :=
  quiz.pieces.filterMap Piece.titled? ++
    quiz.entries.zipIdx.filterMap fun (entry, index) => entry.titledGroup? index

/-- Only entities of these kinds are named by titles of the quiz. -/
def Entity.TakesTitle : Entity → Prop
  | .question _ | .text _ | .group _ => True
  | _ => False

theorem blockCalls_hint {slot : FeedbackSlot} {body : Option String} {call : Call}
    (member : call ∈ blockCalls location slot body) :
    ∃ slot, call = ⟨.feedback location slot, .feedback, none⟩ := by
  obtain ⟨_, _, rfl⟩ := List.mem_map.mp member
  exact ⟨slot, rfl⟩

theorem FeedbackParts.mem_calls {bodies : FeedbackParts String} {call : Call}
    (member : call ∈ bodies.calls location) :
    ∃ slot, call = ⟨.feedback location slot, .feedback, none⟩ := by
  simp only [FeedbackParts.calls, List.mem_append, List.mem_flatMap] at member
  rcases member with ((member | member) | member) | ⟨indexed, _, member⟩
  all_goals exact blockCalls_hint member

/-- The first call for a piece is for the piece itself, and no other is for a titled entity. -/
theorem Piece.calls_split (piece : Piece) :
    ∃ first rest, piece.calls = first :: rest ∧ first.entity = piece.entity ∧
      first.titled? = piece.titled? ∧
      ∀ call ∈ rest, call.titled? = none ∧ ¬call.entity.TakesTitle := by
  cases piece with
  | text entry region => exact ⟨_, [], rfl, rfl, rfl, by simp⟩
  | question location single =>
      refine ⟨_, _, rfl, rfl, rfl, fun call member => ?_⟩
      rcases List.mem_append.mp member with member | member
      · obtain ⟨index, _, rfl⟩ := List.mem_map.mp member
        exact ⟨rfl, not_false⟩
      · obtain ⟨slot, rfl⟩ := FeedbackParts.mem_calls member
        exact ⟨rfl, not_false⟩

theorem Entry.mem_groupCalls {entry : Entry} {index : Nat} {call : Call}
    (member : call ∈ entry.groupCalls index) : call.entity = .group index := by
  cases entry with
  | question single => cases member
  | text region => cases member
  | group pool =>
      cases List.mem_singleton.mp member
      rfl

theorem Piece.titled?_eq (piece : Piece) :
    piece.calls.filterMap Call.titled? = piece.titled?.toList := by
  obtain ⟨first, rest, split, _, same, untitled⟩ := piece.calls_split
  have others : rest.filterMap Call.titled? = [] :=
    List.filterMap_eq_nil_iff.mpr fun call member => (untitled call member).1
  rw [split, List.filterMap_cons, same, others]
  cases piece.titled? <;> rfl

theorem Entry.titledGroup?_eq (entry : Entry) (index : Nat) :
    (entry.groupCalls index).filterMap Call.titled? = (entry.titledGroup? index).toList := by
  cases entry with
  | question single | text region => rfl
  | group pool =>
      rw [Entry.groupCalls, List.filterMap_eq_flatMap_toList, List.flatMap_singleton]
      rfl

/-- The calls that titles are given to are those for the titled parts of the quiz. -/
theorem Quiz.calls_titled (quiz : Quiz) : quiz.calls.filterMap Call.titled? = quiz.titled := by
  rw [Quiz.calls, Quiz.testCalls, List.filterMap_append, List.filterMap_append,
    List.filterMap_flatMap, List.filterMap_flatMap, Quiz.titled,
    List.filterMap_eq_flatMap_toList Piece.titled?]
  simp only [Piece.titled?_eq, Entry.titledGroup?_eq]
  exact congrArg (_ ++ ·) (List.filterMap_eq_flatMap_toList _ _).symm

theorem zipIdx_apart {α : Type} (values : List α) :
    values.zipIdx.Pairwise fun first second => first.2 ≠ second.2 := by
  refine List.pairwise_map.mp ?_
  rw [List.zipIdx_map_snd]
  exact List.nodup_range'

theorem Piece.takesTitle (piece : Piece) : piece.entity.TakesTitle := by
  cases piece <;> exact trivial

theorem Quiz.pieces_apart (quiz : Quiz) :
    (quiz.pieces.flatMap Piece.calls).Pairwise fun earlier later => later.titled?.isSome →
      earlier.entity ≠ later.entity := by
  refine List.pairwise_flatMap.mpr ⟨fun piece _ => ?_, ?_⟩
  · obtain ⟨first, rest, split, _, _, untitled⟩ := piece.calls_split
    rw [split, List.pairwise_cons]
    refine ⟨fun later member isTitled => ?_, List.pairwise_of_forall_mem_list ?_⟩
    · simp [(untitled later member).1] at isTitled
    · intro earlier _ later member isTitled
      simp [(untitled later member).1] at isTitled
  · refine (List.pairwise_map.mp quiz.entities_nodup).imp fun {before after} apart => ?_
    obtain ⟨first, rest, split, entity, _, untitled⟩ := before.calls_split
    obtain ⟨other, more, splitAfter, entityAfter, _, untitledAfter⟩ := after.calls_split
    intro earlier inBefore later inAfter isTitled
    rw [split] at inBefore
    rw [splitAfter] at inAfter
    rcases List.mem_cons.mp inAfter with rfl | inAfter
    · rw [entityAfter]
      rcases List.mem_cons.mp inBefore with rfl | inBefore
      · rwa [entity]
      · exact fun same => (untitled earlier inBefore).2 (same ▸ after.takesTitle)
    · simp [(untitledAfter later inAfter).1] at isTitled

theorem Quiz.testCalls_apart (quiz : Quiz) :
    quiz.testCalls.Pairwise fun earlier later => later.titled?.isSome →
      earlier.entity ≠ later.entity := by
  refine List.pairwise_append.mpr
    ⟨?_, List.pairwise_flatMap.mpr ⟨fun (entry, index) _ => ?_, ?_⟩, ?_⟩
  · simp [Call.titled?, Entity.titled?, Entity.location?]
  · cases entry <;> simp [Entry.groupCalls]
  · refine (zipIdx_apart quiz.entries).imp fun apart earlier inBefore later inAfter _ => ?_
    rw [Entry.mem_groupCalls inBefore, Entry.mem_groupCalls inAfter]
    exact fun same => apart (Entity.group.inj same)
  · intro earlier inFront later inGroups _
    obtain ⟨indexed, _, member⟩ := List.mem_flatMap.mp inGroups
    rw [Entry.mem_groupCalls member]
    simp only [List.mem_cons, List.not_mem_nil, or_false] at inFront
    rcases inFront with rfl | rfl | rfl <;> simp

theorem Quiz.mem_testCalls {call : Call} (member : call ∈ quiz.testCalls)
    (isTitled : call.titled?.isSome) : ∃ index, call.entity = .group index := by
  rcases List.mem_append.mp member with inFront | inGroups
  · simp only [List.mem_cons, List.not_mem_nil, or_false] at inFront
    rcases inFront with rfl | rfl | rfl <;> cases isTitled
  · obtain ⟨indexed, _, listed⟩ := List.mem_flatMap.mp inGroups
    exact ⟨indexed.2, Entry.mem_groupCalls listed⟩

/-- No titled entity is called for twice. -/
theorem Quiz.calls_apart (quiz : Quiz) :
    quiz.calls.Pairwise fun earlier later => later.titled?.isSome →
      earlier.entity ≠ later.entity := by
  refine List.pairwise_append.mpr ⟨quiz.pieces_apart, quiz.testCalls_apart, ?_⟩
  intro earlier inPieces later inTest isTitled
  obtain ⟨index, group⟩ := Quiz.mem_testCalls inTest isTitled
  obtain ⟨piece, _, member⟩ := List.mem_flatMap.mp inPieces
  obtain ⟨first, rest, split, entity, _, untitled⟩ := piece.calls_split
  rw [split] at member
  rw [group]
  rcases List.mem_cons.mp member with rfl | member
  · rw [entity]
    cases piece <;> simp [Piece.entity]
  · exact fun same => (untitled earlier member).2 (same ▸ trivial)

end QuizPackage
