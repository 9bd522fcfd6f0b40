import QuizPackage.Proofs.Package.Calls
import QuizPackage.Proofs.Package.Renaming

namespace QuizPackage

variable {suffix : String} {options : Options} {quiz : Quiz} {assets : AssetMap} {planned : Plan}
  {problem : Problem}

theorem issueBlock_carried (location : Location) (slot : FeedbackSlot) (body : Option String) :
    Issuing.CarriedTo suffix (Option.map (Identifier.suffixed suffix))
      (issueBlock location slot body) (issueBlock location slot body) := by
  cases body with
  | none => exact .pure rfl
  | some body => exact (issueFor_carried _ _ _).map fun identifier => rfl

theorem issueBlocks_carried (location : Location) (bodies : FeedbackParts String) :
    Issuing.CarriedTo suffix (FeedbackParts.map (Identifier.suffixed suffix))
      (issueBlocks location bodies) (issueBlocks location bodies) := by
  refine (issueBlock_carried _ _ _).bind fun general => ?_
  refine (issueBlock_carried _ _ _).bind fun correct => ?_
  refine (issueBlock_carried _ _ _).bind fun incorrect => ?_
  refine (Issuing.CarriedTo.mapM (fun indexed => issueBlock_carried _ _ _) _).bind fun choices => ?_
  exact .pure rfl

theorem FeedbackParts.isEmpty_map {α β : Type} (convert : α → β) (parts : FeedbackParts α) :
    (parts.map convert).isEmpty = parts.isEmpty := by
  simp [FeedbackParts.isEmpty, FeedbackParts.map, Function.comp_def]

theorem issueFeedback_carried (item : Identifier) (blocks : FeedbackParts Identifier) :
    Issuing.CarriedTo suffix (Option.map (Identifier.suffixed suffix))
      (issueFeedback item blocks)
      (issueFeedback (item.suffixed suffix) (blocks.map (Identifier.suffixed suffix))) := by
  unfold issueFeedback
  rw [FeedbackParts.isEmpty_map]
  cases blocks.isEmpty with
  | true => exact .pure rfl
  | false => exact (issueVariable_carried _ _).map fun name => rfl

theorem issueItemIdentifiers_carried (question : Question) (location : Location) :
    Issuing.CarriedTo suffix (ItemIdentifiers.rename (Identifier.suffixed suffix))
      (issueItemIdentifiers question location) (issueItemIdentifiers question location) := by
  rw [issueItemIdentifiers_eq]
  refine (issueFor_carried _ _ _).bind fun item => ?_
  refine (issueVariable_carried _ _).bind fun response => ?_
  refine (issueVariable_carried _ _).bind fun score => ?_
  refine (Issuing.CarriedTo.mapM (fun index => issueFor_carried _ _ _) _).bind fun choices => ?_
  refine (issueBlocks_carried _ _).bind fun blocks => ?_
  refine (issueFeedback_carried _ _).bind fun feedback => ?_
  exact .pure rfl

theorem improperAssetName?_rename {naming : Identifier → Identifier} (names : List String) :
    ∀ fault ∈ improperAssetName? names, fault.rename naming = fault := by
  intro fault member
  obtain ⟨name, _, rfl⟩ := Option.map_eq_some_iff.mp member
  rfl

/-- What is wrong with a question names no identifier. -/
theorem Question.problem?_rename {naming : Identifier → Identifier} (question : Question)
    (location : Location) :
    ∀ problem ∈ question.problem? location, problem.rename naming = problem := by
  intro problem member
  rw [Question.problem?, Option.mem_def, Option.orElse_eq_orElse, Option.orElse_eq_or,
    Option.or_eq_some_iff] at member
  rcases member with member | ⟨_, member⟩
  · obtain ⟨fault, _, rfl⟩ := Option.map_eq_some_iff.mp member
    rfl
  · obtain ⟨fault, found, rfl⟩ := Option.map_eq_some_iff.mp member
    rw [Problem.rename, improperAssetName?_rename _ fault found]

theorem TextRegion.problem?_rename {naming : Identifier → Identifier} (region : TextRegion) :
    ∀ problem ∈ region.problem?, problem.rename naming = problem := by
  intro problem member
  obtain ⟨fault, found, rfl⟩ := Option.map_eq_some_iff.mp member
  rw [Problem.rename, improperAssetName?_rename _ fault found]

theorem buildItem_carried (question : Question) (location : Location) (shuffle : Bool) :
    Issuing.CarriedTo suffix (Item.rename (Identifier.suffixed suffix))
      (buildItem question location shuffle) (buildItem question location shuffle) := by
  rw [buildItem_eq]
  refine (issueItemIdentifiers_carried question location).bind_of_ok
    fun identifiers registry after issued => ?_
  have counted := (issueItemIdentifiers_ok issued).choices_length
  have kept : (identifiers.rename (Identifier.suffixed suffix)).choices.length =
      question.kind.choices.length := by
    rw [← counted, ItemIdentifiers.rename, List.length_map]
  rw [Question.finish_eq counted, Question.finish_eq kept]
  exact .attempt (question.problem?_rename location) (question.item_rename location shuffle).symm

theorem buildTextItem_carried (region : TextRegion) (entry : Nat) :
    Issuing.CarriedTo suffix (Item.rename (Identifier.suffixed suffix))
      (buildTextItem region entry) (buildTextItem region entry) := by
  rw [buildTextItem_eq]
  refine (issueFor_carried _ _ _).bind fun identifier => ?_
  refine (issueVariable_carried _ _).bind fun score => ?_
  exact .attempt region.problem?_rename (region.item_rename identifier score).symm

theorem buildPiece_carried (shuffle : Bool) (piece : Piece) :
    Issuing.CarriedTo suffix (Item.rename (Identifier.suffixed suffix))
      (buildPiece shuffle piece) (buildPiece shuffle piece) := by
  cases piece with
  | question location single => exact buildItem_carried single location shuffle
  | text entry region => exact buildTextItem_carried region entry

theorem builtItem_carried (entity : Entity) :
    Issuing.CarriedTo suffix (ItemReference.rename (Identifier.suffixed suffix))
      (builtItem entity) (builtItem entity) := by
  rw [builtItem_eq]
  refine (lookUp_carried entity).bind fun known => ?_
  cases known with
  | none => exact .stop rfl
  | some identifier => exact .pure rfl

theorem buildGroup_carried (pool : Group) (entry : Nat) :
    Issuing.CarriedTo suffix (GroupSection.rename (Identifier.suffixed suffix))
      (buildGroup pool entry) (buildGroup pool entry) := by
  have kept : ∀ problem ∈ pool.problem? entry,
      problem.rename (Identifier.suffixed suffix) = problem := by
    intro problem member
    unfold Group.problem? at member
    split at member
    · cases member
    · cases member
      rfl
  rw [buildGroup_eq]
  refine (Issuing.CarriedTo.attempt kept (rfl : id () = ())).bind fun _ => ?_
  refine (issueFor_carried _ _ _).bind fun identifier => ?_
  refine (Issuing.CarriedTo.mapM (fun member => builtItem_carried _) _).bind fun items => ?_
  exact .pure rfl

theorem buildPart_carried (entry : Entry) (index : Nat) :
    Issuing.CarriedTo suffix (SectionPart.rename (Identifier.suffixed suffix))
      (buildPart entry index) (buildPart entry index) := by
  cases entry with
  | question single => exact (builtItem_carried _).map fun reference => rfl
  | text region => exact (builtItem_carried _).map fun reference => rfl
  | group pool => exact (buildGroup_carried pool index).map fun pooled => rfl

theorem buildTest_carried (quiz : Quiz) :
    Issuing.CarriedTo suffix (Test.rename (Identifier.suffixed suffix))
      (buildTest quiz) (buildTest quiz) := by
  refine (issueFor_carried _ _ _).bind fun identifier => ?_
  refine (issueVariable_carried _ _).bind fun score => ?_
  refine (issueFor_carried _ _ _).bind fun part => ?_
  refine (issueFor_carried _ _ _).bind fun rootSection => ?_
  refine (Issuing.CarriedTo.mapM (fun indexed => buildPart_carried _ _) _).bind fun parts => ?_
  exact .pure rfl

theorem listAsset_carried (assets : AssetMap) (item : Identifier) (name : String) :
    Issuing.CarriedTo suffix
      (Prod.map (Identifier.suffixed suffix)
        (List.map (Resource.rename (Identifier.suffixed suffix))))
      (listAsset assets item name) (listAsset assets (item.suffixed suffix) name) := by
  rw [listAsset_eq, listAsset_eq]
  cases assets.lookup name with
  | none => exact .stop rfl
  | some asset =>
      refine (lookUp_carried _).bind fun known => (issueFor_carried _ _ _).bind fun identifier => ?_
      cases known <;> exact .pure rfl

theorem listItem_carried (assets : AssetMap) (item : Item) :
    Issuing.CarriedTo suffix
      (Prod.map (Resource.rename (Identifier.suffixed suffix))
        (List.map (Resource.rename (Identifier.suffixed suffix))))
      (listItem assets item) (listItem assets (item.rename (Identifier.suffixed suffix))) := by
  refine (Issuing.CarriedTo.mapM (listAsset_carried assets item.identifier) _).bind fun listed => ?_
  refine .pure (Prod.ext ?_ ?_)
  · simp only [Prod.map, Resource.rename, Resource.renamedHref, Resource.plain,
      Item.interactionKinds_rename, List.map_map]
    rfl
  · simp [List.map_flatMap, List.flatMap_map]

theorem buildManifest_carried (quiz : Quiz) (test : Test) (items : List Item)
    (assets : AssetMap) :
    Issuing.CarriedTo suffix (Manifest.rename (Identifier.suffixed suffix))
      (buildManifest quiz test items assets)
      (buildManifest quiz (test.rename (Identifier.suffixed suffix))
        (items.map (Item.rename (Identifier.suffixed suffix))) assets) := by
  refine (issueFor_carried _ _ _).bind fun identifier => ?_
  rw [Issuing.mapM_map]
  refine (Issuing.CarriedTo.mapM (listItem_carried assets) _).bind fun listed => ?_
  refine .pure ?_
  simp [Manifest.rename, listTest_rename, List.map_flatMap, List.flatMap_map, Function.comp_def]

theorem buildAll_carried (quiz : Quiz) (assets : AssetMap) (shuffle : Bool) :
    Issuing.CarriedTo suffix
      (Prod.map (List.map (Item.rename (Identifier.suffixed suffix)))
        (Prod.map (Test.rename (Identifier.suffixed suffix))
          (Manifest.rename (Identifier.suffixed suffix))))
      (buildAll quiz assets shuffle) (buildAll quiz assets shuffle) := by
  refine (Issuing.CarriedTo.mapM (buildPiece_carried shuffle) _).bind fun items => ?_
  refine (buildTest_carried quiz).bind fun test => ?_
  refine (buildManifest_carried quiz test items assets).bind fun manifest => ?_
  exact .pure rfl

theorem Registry.empty_suffixed (suffix : String) (strict : Bool) :
    (Registry.empty "" strict).suffixed (sanitize suffix) = Registry.empty suffix strict := rfl

/-- What is planned with a suffix is what is planned without one, with the suffix on its
identifiers. -/
theorem plan_suffixed (options : Options) (quiz : Quiz) (assets : AssetMap) :
    plan options quiz assets =
      ((plan { options with suffix := "" } quiz assets).map
        (Plan.rename (Identifier.suffixed (sanitize options.suffix))
          (sanitize options.suffix))).mapError
          (Problem.rename (Identifier.suffixed (sanitize options.suffix))) := by
  have carried : Issuing.CarriedTo (sanitize options.suffix) _ _ _ :=
    buildAll_carried quiz assets options.shuffle
  have bare : (Registry.empty "" options.strict).suffix = "" := show sanitize "" = "" by decide
  unfold plan
  dsimp only
  rw [← Registry.empty_suffixed options.suffix options.strict]
  cases ran : buildAll quiz assets options.shuffle (Registry.empty "" options.strict) with
  | ok documents after =>
      rw [(carried.ok bare ran).2]
      rfl
  | error problem after =>
      rw [(carried.error bare ran).2]
      rfl

theorem Identifier.resuffixed_comp_suffixed (first second : String) :
    Identifier.resuffixed first second ∘ Identifier.suffixed first =
      Identifier.suffixed second :=
  funext (Identifier.resuffixed_suffixed first second)

/-- Plans with two suffixes, or the problems that come of them, differ by these suffixes. -/
theorem plan_resuffixed (options : Options) (suffix : String) (quiz : Quiz) (assets : AssetMap) :
    plan { options with suffix := suffix } quiz assets =
      ((plan options quiz assets).map
        (Plan.rename (Identifier.resuffixed (sanitize options.suffix) (sanitize suffix))
          (sanitize suffix))).mapError
          (Problem.rename (Identifier.resuffixed (sanitize options.suffix) (sanitize suffix))) := by
  rw [plan_suffixed options, plan_suffixed { options with suffix := suffix }]
  dsimp only
  cases plan { options with suffix := "" } quiz assets with
  | ok planned =>
      refine congrArg Except.ok ?_
      rw [Plan.rename_rename, Identifier.resuffixed_comp_suffixed]
  | error problem =>
      refine congrArg Except.error ?_
      rw [Problem.rename_rename, Identifier.resuffixed_comp_suffixed]

theorem plan_ok_resuffixed (made : plan options quiz assets = .ok planned) (suffix : String) :
    plan { options with suffix := suffix } quiz assets = .ok
      (planned.rename (Identifier.resuffixed (sanitize options.suffix) (sanitize suffix))
        (sanitize suffix)) := by
  rw [plan_resuffixed, made]
  rfl

theorem plan_error_resuffixed (failed : plan options quiz assets = .error problem)
    (suffix : String) :
    plan { options with suffix := suffix } quiz assets = .error
      (problem.rename (Identifier.resuffixed (sanitize options.suffix) (sanitize suffix))) := by
  rw [plan_resuffixed, failed]
  rfl

end QuizPackage
