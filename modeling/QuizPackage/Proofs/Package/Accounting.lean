import QuizPackage.Proofs.Identifier.Suffix
import QuizPackage.Proofs.Item.Feedback
import QuizPackage.Proofs.Package.References

namespace QuizPackage

/-- The documents of a plan, each by its identifier and with all that it refers to. -/
def Plan.references (planned : Plan) : List (Identifier × List Identifier) :=
  (planned.manifest.identifier, planned.manifest.references) ::
    (planned.test.identifier, planned.test.references) ::
      planned.items.map fun item => (item.identifier, item.references)

/-- What an item names as a variable: what it declares, and the outcomes of its feedback blocks. -/
def Item.namedVariables (item : Item) : List Identifier :=
  item.variables ++ item.feedback.map FeedbackBlock.outcome

variable {registry before after : Registry} {location : Location} {single : Question}
  {shuffle : Bool} {item : Item} {quiz : Quiz} {assets : AssetMap} {options : Options}
  {planned : Plan} {name owner : Identifier}

/-- What is issued for the package is not a variable of anything. -/
theorem Registry.Sound.not_isVariableOf (sound : registry.Sound)
    (issued : registry.contains name = true) (owner : Identifier) :
    registry.isVariableOf owner name = false := by
  rw [Bool.eq_false_iff, ne_eq, Registry.isVariableOf_iff]
  intro owned
  obtain ⟨base, taken, rfl⟩ := sound.exists_base issued
  have shaped := sound.basesShaped base taken
  -- Variables start with a capital, and bases do not.
  have capital := (sound.ownedShaped _ owned).isCapital_eq_true
  dsimp only at capital
  rw [registry.identifier_eq_suffixed shaped, Identifier.isCapital_suffixed,
    shaped.isCapital_eq_false] at capital
  cases capital

theorem issueBlock_adds {slot : FeedbackSlot} {body : Option String} {block : Option Identifier}
    (ran : issueBlock location slot body registry = .ok block after) :
    registry.Adds after block.toList := by
  cases body with
  | none =>
      cases ran
      exact .refl registry
  | some body =>
      obtain ⟨identifier, issued, rfl⟩ := Issuing.map_ok.mp ran
      exact issueFor_adds issued

theorem issueBlocks_adds {bodies : FeedbackParts String} {blocks : FeedbackParts Identifier}
    (ran : issueBlocks location bodies registry = .ok blocks after) :
    registry.Adds after (blocks.inItemOrder.filterMap id) := by
  obtain ⟨general, first, one, ran⟩ := Issuing.bind_ok.mp ran
  obtain ⟨correct, second, two, ran⟩ := Issuing.bind_ok.mp ran
  obtain ⟨incorrect, third, three, ran⟩ := Issuing.bind_ok.mp ran
  obtain ⟨choices, last, four, ran⟩ := Issuing.bind_ok.mp ran
  cases ran
  have chosen : third.Adds after (choices.flatMap Option.toList) :=
    Issuing.mapM_adds Option.toList (fun _ _ _ _ issued => issueBlock_adds issued) four
  have all := (issueBlock_adds one).trans
    ((issueBlock_adds two).trans ((issueBlock_adds three).trans chosen))
  refine all.mono fun name member => ?_
  -- Blocks are issued in another order than they stand in an item.
  simp only [List.mem_append, Option.mem_toList, List.mem_flatMap] at member
  simp only [FeedbackParts.inItemOrder, List.mem_filterMap, id_eq, exists_eq_right,
    List.cons_append, List.mem_cons, List.mem_append, List.not_mem_nil, or_false]
  rcases member with general | correct | incorrect | ⟨block, held, rfl⟩
  · exact .inr (.inr (.inr general.symm))
  · exact .inl correct.symm
  · exact .inr (.inl incorrect.symm)
  · exact .inr (.inr (.inl held))

theorem issueFeedback_adds {owner : Identifier} {blocks : FeedbackParts Identifier}
    {feedback : Option Identifier}
    (ran : issueFeedback owner blocks registry = .ok feedback after) :
    registry.Adds after [] := by
  unfold issueFeedback at ran
  split at ran
  · cases ran
    exact .refl registry
  · obtain ⟨variableName, issued, _⟩ := Issuing.map_ok.mp ran
    exact issueVariable_adds issued

/-- The identifiers of a question that are not variables of its item. -/
def ItemIdentifiers.issued (identifiers : ItemIdentifiers) : List Identifier :=
  identifiers.item :: identifiers.choices ++ identifiers.blocks.inItemOrder.filterMap id

theorem issueItemIdentifiers_adds {identifiers : ItemIdentifiers}
    (ran : issueItemIdentifiers single location registry = .ok identifiers after) :
    registry.Adds after identifiers.issued := by
  rw [issueItemIdentifiers_eq] at ran
  obtain ⟨item, first, one, ran⟩ := Issuing.bind_ok.mp ran
  obtain ⟨response, second, two, ran⟩ := Issuing.bind_ok.mp ran
  obtain ⟨score, third, three, ran⟩ := Issuing.bind_ok.mp ran
  obtain ⟨choices, fourth, four, ran⟩ := Issuing.bind_ok.mp ran
  obtain ⟨blocks, fifth, five, ran⟩ := Issuing.bind_ok.mp ran
  obtain ⟨feedback, last, six, ran⟩ := Issuing.bind_ok.mp ran
  cases ran
  have chosen : third.Adds fourth (choices.flatMap fun choice => [choice]) :=
    Issuing.mapM_adds (fun choice => [choice]) (fun _ _ _ _ issued => issueFor_adds issued) four
  have all := (issueFor_adds one).trans ((issueVariable_adds two).trans
    ((issueVariable_adds three).trans (chosen.trans
      ((issueBlocks_adds five).trans (issueFeedback_adds six)))))
  refine all.mono fun name member => ?_
  simpa [ItemIdentifiers.issued] using member

/-- An item refers to all identifiers issued for its question. -/
theorem ItemIdentifiers.BoundIn.issued_referred {identifiers : ItemIdentifiers}
    (bound : identifiers.BoundIn single location registry) (shuffle : Bool) :
    identifiers.issued ⊆
      (single.item identifiers (single.synthesis identifiers) location shuffle).references := by
  intro name member
  rw [Item.references, Text.mem_ascending, Question.item_choices bound.choices_length,
    List.mem_append, List.mem_append]
  rcases List.mem_append.mp member with member | block
  · rcases List.mem_cons.mp member with rfl | choice
    · exact .inl (.inl List.mem_cons_self)
    · exact .inl (.inr choice)
  · rw [← Question.feedbackBlocks_identifiers bound] at block
    obtain ⟨shown, held, rfl⟩ := List.mem_map.mp block
    exact .inr (List.mem_flatMap.mpr ⟨shown, held, List.mem_cons_self⟩)

theorem buildItem_adds (ran : buildItem single location shuffle registry = .ok item after) :
    registry.Adds after item.references := by
  rw [buildItem_eq] at ran
  obtain ⟨identifiers, middle, issued, ran⟩ := Issuing.bind_ok.mp ran
  have bound := issueItemIdentifiers_ok issued
  rw [Question.finish_eq bound.choices_length] at ran
  obtain ⟨_, rfl, rfl⟩ := Issuing.attempt_ok.mp ran
  exact (issueItemIdentifiers_adds issued).mono (bound.issued_referred shuffle)

theorem buildTextItem_adds {region : TextRegion} {entry : Nat}
    (ran : buildTextItem region entry registry = .ok item after) :
    registry.Adds after item.references := by
  rw [buildTextItem_eq] at ran
  obtain ⟨identifier, first, one, ran⟩ := Issuing.bind_ok.mp ran
  obtain ⟨score, second, two, ran⟩ := Issuing.bind_ok.mp ran
  obtain ⟨_, rfl, rfl⟩ := Issuing.attempt_ok.mp ran
  refine ((issueFor_adds one).trans (issueVariable_adds two)).mono fun name member => ?_
  rw [List.append_nil, List.mem_singleton] at member
  subst member
  rw [Item.references, Text.mem_ascending]
  exact List.mem_append_left _ (List.mem_append_left _ List.mem_cons_self)

theorem buildPiece_adds {piece : Piece} (ran : buildPiece shuffle piece registry = .ok item after) :
    registry.Adds after item.references := by
  cases piece with
  | question location single => exact buildItem_adds ran
  | text entry region => exact buildTextItem_adds ran

theorem builtItem_adds {entity : Entity} {reference : ItemReference}
    (ran : builtItem entity registry = .ok reference after) : registry.Adds after [] := by
  unfold builtItem at ran
  split at ran
  · cases ran
    exact .refl registry
  · cases ran

theorem buildGroup_adds {pool : Group} {entry : Nat} {pooled : GroupSection}
    (ran : buildGroup pool entry registry = .ok pooled after) :
    registry.Adds after [pooled.identifier] := by
  rw [buildGroup_eq] at ran
  obtain ⟨_, first, attempted, issuing⟩ := Issuing.bind_ok.mp ran
  obtain ⟨identifier, second, issued, finding⟩ := Issuing.bind_ok.mp issuing
  obtain ⟨items, last, found, finished⟩ := Issuing.bind_ok.mp finding
  cases finished
  obtain ⟨_, _, rfl⟩ := Issuing.attempt_ok.mp attempted
  have nothing : second.Adds after (items.flatMap fun _ => []) :=
    Issuing.mapM_adds (fun _ => []) (fun _ _ _ _ ran => builtItem_adds ran) found
  refine ((issueFor_adds issued).trans nothing).mono fun name member => ?_
  simpa using member

theorem buildPart_adds {entry : Entry} {index : Nat} {part : SectionPart}
    (ran : buildPart entry index registry = .ok part after) :
    registry.Adds after (part.group?.toList.map GroupSection.identifier) := by
  cases entry with
  | question single =>
      obtain ⟨reference, found, rfl⟩ := Issuing.map_ok.mp ran
      exact builtItem_adds found
  | text region =>
      obtain ⟨reference, found, rfl⟩ := Issuing.map_ok.mp ran
      exact builtItem_adds found
  | group pool =>
      obtain ⟨pooled, made, rfl⟩ := Issuing.map_ok.mp ran
      exact buildGroup_adds made

theorem buildTest_adds {test : Test} (ran : buildTest quiz registry = .ok test after) :
    registry.Adds after test.references := by
  obtain ⟨identifier, first, one, ran⟩ := Issuing.bind_ok.mp ran
  obtain ⟨score, second, two, ran⟩ := Issuing.bind_ok.mp ran
  obtain ⟨part, third, three, ran⟩ := Issuing.bind_ok.mp ran
  obtain ⟨rootSection, fourth, four, ran⟩ := Issuing.bind_ok.mp ran
  obtain ⟨parts, last, five, ran⟩ := Issuing.bind_ok.mp ran
  cases ran
  have grouped : fourth.Adds after
      (parts.flatMap fun part => part.group?.toList.map GroupSection.identifier) :=
    Issuing.mapM_adds _ (fun _ _ _ _ ran => buildPart_adds ran) five
  have all := (issueFor_adds one).trans ((issueVariable_adds two).trans
    ((issueFor_adds three).trans ((issueFor_adds four).trans grouped)))
  refine all.mono fun name member => ?_
  rw [Test.references, Text.mem_ascending, List.mem_append, List.mem_append]
  simp only [List.mem_append, List.mem_singleton, List.not_mem_nil, List.mem_flatMap] at member
  rcases member with rfl | impossible | rfl | rfl | ⟨part, listed, named⟩
  · exact .inl (.inl (by simp))
  · exact impossible.elim
  · exact .inl (.inl (by simp))
  · exact .inl (.inl (by simp))
  · obtain ⟨pool, held, rfl⟩ := List.mem_map.mp named
    exact .inl (.inr (List.mem_map_of_mem
      (List.mem_filterMap.mpr ⟨part, listed, Option.mem_toList.mp held⟩)))

theorem listAsset_adds {assetName : String} {result : Identifier × List Resource}
    (ran : listAsset assets owner assetName registry = .ok result after) :
    registry.Adds after [result.1] := by
  cases atHand : assets.lookup assetName with
  | none =>
      simp only [listAsset, atHand] at ran
      cases ran
  | some asset =>
      simp only [listAsset, atHand] at ran
      obtain ⟨current, middle, got, ran⟩ := Issuing.bind_ok.mp ran
      cases got
      cases bound : registry.lookup (.asset assetName) with
      | some identifier =>
          simp only [bound] at ran
          cases ran
          exact (Registry.Adds.refl registry).mono (List.nil_subset _)
      | none =>
          simp only [bound] at ran
          obtain ⟨identifier, last, issued, finished⟩ := Issuing.bind_ok.mp ran
          cases finished
          exact issueFor_adds issued

theorem listItem_adds {result : Resource × List Resource}
    (ran : listItem assets item registry = .ok result after) :
    registry.Adds after result.1.dependencies := by
  obtain ⟨listed, last, all, finished⟩ := Issuing.bind_ok.mp ran
  cases finished
  have named : registry.Adds after (listed.flatMap fun result => [result.1]) :=
    Issuing.mapM_adds (fun result => [result.1]) (fun _ _ _ _ ran => listAsset_adds ran) all
  refine named.mono fun name member => ?_
  simpa using member

theorem buildManifest_adds {test : Test} {items : List Item} {manifest : Manifest}
    (ran : buildManifest quiz test items assets registry = .ok manifest after) :
    registry.Adds after manifest.references := by
  obtain ⟨identifier, first, issued, ran⟩ := Issuing.bind_ok.mp ran
  obtain ⟨listed, last, all, finished⟩ := Issuing.bind_ok.mp ran
  cases finished
  have embedded : first.Adds after (listed.flatMap fun result => result.1.dependencies) :=
    Issuing.mapM_adds _ (fun _ _ _ _ ran => listItem_adds ran) all
  refine ((issueFor_adds issued).trans embedded).mono fun name member => ?_
  rw [Manifest.references, Text.mem_ascending]
  rcases List.mem_append.mp member with own | needed
  · rw [List.mem_singleton] at own
    exact own ▸ List.mem_cons_self
  · obtain ⟨result, within, depends⟩ := List.mem_flatMap.mp needed
    refine List.mem_cons_of_mem _ (List.mem_flatMap.mpr ⟨result.1, ?_, ?_⟩)
    · exact List.mem_append_left _ (List.mem_cons_of_mem _ (List.mem_map_of_mem within))
    · exact List.mem_cons_of_mem _ depends

/-- Whatever is issued for a plan, one of its documents refers to. -/
theorem plan_issued_referred (ran : plan options quiz assets = .ok planned)
    (issued : planned.registry.contains name = true) :
    ∃ document ∈ planned.references, name ∈ document.2 := by
  obtain ⟨first, second, made, tested, listed⟩ := plan_stages ran
  have itemsAdd : (Registry.empty options.suffix options.strict).Adds first
      (planned.items.flatMap Item.references) :=
    Issuing.mapM_adds Item.references (fun _ _ _ _ ran => buildPiece_adds ran) made
  have all := itemsAdd.trans ((buildTest_adds tested).trans (buildManifest_adds listed))
  rcases all name issued with before | added
  · cases before
  · simp only [List.mem_append, List.mem_flatMap] at added
    rcases added with ⟨item, inside, refers⟩ | refers | refers
    · refine ⟨(item.identifier, item.references), ?_, refers⟩
      exact List.mem_cons_of_mem _ (List.mem_cons_of_mem _
        (List.mem_map_of_mem (f := fun item => (item.identifier, item.references)) inside))
    · exact ⟨_, List.mem_cons_of_mem _ List.mem_cons_self, refers⟩
    · exact ⟨_, List.mem_cons_self, refers⟩

/-- Whatever a document of a plan refers to is issued for the package or is a variable of its
own. -/
theorem Plan.BuiltFrom.referred_issued (built : planned.BuiltFrom quiz assets shuffle)
    {document : Identifier × List Identifier} (member : document ∈ planned.references)
    (refers : name ∈ document.2) :
    planned.registry.isIssuedFor document.1 name = true := by
  rcases List.mem_cons.mp member with rfl | member
  · exact built.manifest_issued refers
  · rcases List.mem_cons.mp member with rfl | member
    · exact built.test_issued refers
    · obtain ⟨item, listed, rfl⟩ := List.mem_map.mp member
      obtain ⟨piece, _, single⟩ := exists_of_forall₂_right built.items listed
      exact single.issued built.sound refers

/-- What a built item names as a variable was issued to the item. -/
theorem Piece.BuiltAs.namedVariables_owned {piece : Piece}
    (built : piece.BuiltAs registry shuffle item) (named : name ∈ item.namedVariables) :
    registry.isVariableOf item.identifier name = true := by
  cases built with
  | @question location single identifiers bound =>
      refine bound.owned name ?_
      rw [Item.namedVariables, Question.item_variables] at named
      rcases List.mem_append.mp named with declared | outcome
      · exact declared
      · obtain ⟨block, held, rfl⟩ := List.mem_map.mp outcome
        simp [ItemIdentifiers.variables, ← (Question.mem_feedbackBlocks held).1]
  | text bound owned =>
      cases List.mem_singleton.mp named
      exact owned

/-- The identifiers that a plan has issued are exactly those that its documents refer to, without
the variables of each. A variable that a document refers to was issued to that document. -/
theorem plan_refers_to_all_it_issues (ran : plan options quiz assets = .ok planned) :
    (∀ name, planned.registry.contains name = true ↔ ∃ document ∈ planned.references,
      name ∈ document.2 ∧ planned.registry.isVariableOf document.1 name = false) ∧
    (∀ document ∈ planned.references, ∀ name ∈ document.2, ∀ owner,
      planned.registry.isVariableOf owner name = true →
        planned.registry.isVariableOf document.1 name = true) ∧
    (∀ item ∈ planned.items, ∀ name ∈ item.namedVariables,
      planned.registry.isVariableOf item.identifier name = true) ∧
    planned.registry.isVariableOf planned.test.identifier planned.test.score = true := by
  have built := plan_ok ran
  have sound := built.sound
  refine ⟨fun name => ⟨fun issued => ?_, ?_⟩, ?_, ?_, built.test.score⟩
  · obtain ⟨document, listed, refers⟩ := plan_issued_referred ran issued
    exact ⟨document, listed, refers, sound.not_isVariableOf issued document.1⟩
  · rintro ⟨document, listed, refers, foreign⟩
    have issued := built.referred_issued listed refers
    rwa [Registry.isIssuedFor, foreign, Bool.or_false] at issued
  · intro document listed name refers owner owned
    have issued := built.referred_issued listed refers
    cases known : planned.registry.contains name with
    | true =>
        rw [sound.not_isVariableOf known owner] at owned
        cases owned
    | false => rwa [Registry.isIssuedFor, known, Bool.false_or] at issued
  · intro item listed name named
    obtain ⟨piece, _, single⟩ := exists_of_forall₂_right built.items listed
    exact single.namedVariables_owned named

def lighthouse : Question :=
  { title := some "Light"
    prompt := "<p>Where does it stand?</p>"
    points := 1.0
    kind := .singleChoice [.plain "North" true, ⟨"", "South", false, some "<p>Turn round.</p>"⟩]
    feedback := ⟨some "<p>See the chart.</p>", none, none⟩
    assets := ["chart.png"] }

def voyage : Quiz :=
  { title := "Voyage"
    description := ""
    entries := [
      .group ⟨some "Light", 1, [lighthouse]⟩,
      .text ⟨none, "<p>Land ahead.</p>", ["chart.png"]⟩] }

def charts : AssetMap := [("chart.png", ⟨.empty, "image/png"⟩)]

theorem voyage_refers_to_all_it_issues :
    ∃ planned, plan ⟨false, "", false⟩ voyage charts = .ok planned ∧
      planned.registry.issued.map Prod.fst = [⟨"chart.png"⟩, ⟨"voyage_manifest"⟩, ⟨"light_2"⟩,
        ⟨"main_section"⟩, ⟨"part"⟩, ⟨"voyage"⟩, ⟨"text"⟩, ⟨"feedback_2"⟩, ⟨"feedback"⟩,
        ⟨"choice_2"⟩, ⟨"choice"⟩, ⟨"light"⟩] ∧
      (∀ name, planned.registry.contains name = true ↔ ∃ document ∈ planned.references,
        name ∈ document.2 ∧ planned.registry.isVariableOf document.1 name = false) := by
  have computed : (plan ⟨false, "", false⟩ voyage charts).toOption.map
      (fun planned => planned.registry.issued.map Prod.fst) =
        some [⟨"chart.png"⟩, ⟨"voyage_manifest"⟩, ⟨"light_2"⟩, ⟨"main_section"⟩, ⟨"part"⟩,
          ⟨"voyage"⟩, ⟨"text"⟩, ⟨"feedback_2"⟩, ⟨"feedback"⟩, ⟨"choice_2"⟩, ⟨"choice"⟩,
          ⟨"light"⟩] := by
    decide +kernel
  obtain ⟨planned, made, issued⟩ := plan_observed _ computed
  exact ⟨planned, made, issued, (plan_refers_to_all_it_issues made).1⟩

end QuizPackage
