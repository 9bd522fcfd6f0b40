import QuizPackage.Proofs.Package.Generation

namespace QuizPackage

variable {quiz : Quiz} {assets : AssetMap} {options : Options} {planned : Plan} {shuffle : Bool}
  {registry : Registry} {format : Format} {writer : Writer} {package : Package}
  {resources : List Resource} {names : List String}

theorem Entry.pieces_length (entry : Entry) (index : Nat) :
    (entry.pieces index).length = entry.itemCount := by
  cases entry with
  | question single | text region => rfl
  | group pool => simp [Entry.pieces, Entry.itemCount]

theorem Quiz.pieces_length (quiz : Quiz) : quiz.pieces.length = quiz.itemCount := by
  have counts := congrArg (List.map Entry.itemCount) (List.zipIdx_map_fst 0 quiz.entries)
  rw [List.map_map] at counts
  rw [Quiz.pieces, List.length_flatMap, Quiz.itemCount, ← counts]
  simp only [Entry.pieces_length]
  rfl

/-- A group of a test picks some of its items, and no more than it has. -/
theorem Test.BuiltFrom.selects {test : Test} (built : test.BuiltFrom quiz registry)
    {pool : GroupSection} (member : pool ∈ test.groups) :
    1 ≤ pool.select ∧ pool.select ≤ pool.items.length := by
  obtain ⟨part, listed, held⟩ := List.mem_filterMap.mp member
  obtain ⟨⟨entry, index⟩, _, made⟩ := exists_of_forall₂_right built.parts listed
  cases made with
  | question bound => cases held
  | text bound => cases held
  | @group source identifier title references selectable bound members =>
      cases held
      have counted : references.length = source.questions.length := by
        rw [← members.length_eq, Entry.pieces_length]
        rfl
      simp only [Group.isSelectable, Bool.and_eq_true, bne_iff_ne, decide_eq_true_eq] at selectable
      rw [counted]
      exact ⟨Nat.one_le_iff_ne_zero.mpr selectable.1, selectable.2⟩

theorem itemResources_identifiers {items : List Item}
    (listed : List.Forall₂ (Item.ListedAs registry) items resources) :
    resources.map Resource.identifier = items.map Item.identifier := by
  induction listed with
  | nil => rfl
  | cons single _ ih =>
      obtain ⟨dependencies, _, rfl⟩ := single
      rw [List.map_cons, List.map_cons, ih]

/-- Every list of the items in a plan, or in the package written for it, has the same identifiers
in the same order. -/
structure Plan.ListsItems (planned : Plan) (package : Package) (identifiers : List Identifier) :
    Prop where
  items : planned.items.map Item.identifier = identifiers
  references : planned.test.items.map ItemReference.identifier = identifiers
  resources : (planned.manifest.resourcesOf .item).map Resource.identifier = identifiers
  documents : (package.documentsOf .item).map Document.identifier = identifiers
  summaries : package.summary.items.map ItemSummary.identifier = identifiers

theorem Plan.BuiltFrom.listsItems (built : planned.BuiltFrom quiz assets shuffle)
    (writer : Writer) :
    planned.ListsItems (writer.package planned quiz assets)
      (planned.items.map Item.identifier) where
  items := rfl
  references := by
    rw [built.test_items, List.map_map]
    rfl
  resources := by
    obtain ⟨itemResources, assetResources, split, items, embedded⟩ := built.resources
    rw [(resourcesOf_split split items embedded).1, itemResources_identifiers items]
  documents := by
    rw [Writer.documentsOf_item, List.map_map]
    rfl
  summaries := by
    rw [Writer.package, List.map_map]
    rfl

theorem generate_ok (ran : generate writer options quiz assets = .ok package) :
    ∃ planned, plan options quiz assets = .ok planned ∧
      package = writer.package planned quiz assets := by
  unfold generate at ran
  cases made : plan options quiz assets with
  | error problem =>
      rw [made] at ran
      cases ran
  | ok planned =>
      rw [made] at ran
      change (checkIntegrity (writer.package planned quiz assets) planned).bind _ = _ at ran
      cases checked : checkIntegrity (writer.package planned quiz assets) planned with
      | error fault =>
          rw [checked] at ran
          cases ran
      | ok _ =>
          rw [checked] at ran
          cases ran
          exact ⟨planned, rfl, rfl⟩

/-- The test of a generated package has one part for each entry of the quiz, and its groups can be
picked from. All lists of the items are the same: they hold the identifiers bound to the pieces of
the quiz, in the order of the quiz and without repetitions. -/
theorem generated_package_follows_quiz
    (ran : generate format.writer options quiz assets = .ok package) :
    ∃ planned identifiers, plan options quiz assets = .ok planned ∧
      List.Forall₂ (fun indexed part => indexed.1.BuiltAs planned.registry indexed.2 part)
        quiz.entries.zipIdx planned.test.parts ∧
      (∀ pool ∈ planned.test.groups, 1 ≤ pool.select ∧ pool.select ≤ pool.items.length) ∧
      planned.ListsItems package identifiers ∧ identifiers.Nodup ∧
      identifiers.length = quiz.itemCount ∧
      List.Forall₂ (fun piece identifier =>
        planned.registry.lookup piece.entity = some identifier) quiz.pieces identifiers := by
  obtain ⟨planned, made, rfl⟩ := generate_ok ran
  have built := plan_ok made
  have lookups := List.forall₂_map_left_iff.mp built.lookups
  refine ⟨planned, planned.items.map Item.identifier, made, built.test.parts,
    fun pool member => built.test.selects member, built.listsItems format.writer,
    built.items_nodup, ?_, lookups⟩
  rw [← lookups.length_eq, quiz.pieces_length]

def compass : Question :=
  { title := some "Map"
    prompt := "<p>A compass points north.</p>"
    points := 1.0
    kind := .statement true
    feedback := ⟨none, none, none⟩
    assets := [] }

def excursion : Quiz :=
  { title := "Map"
    description := ""
    entries := [
      .text ⟨some "Map", "<p>Take a map.</p>", []⟩,
      .group ⟨some "Map", 1, [compass, compass]⟩,
      .question compass] }

theorem excursion_follows_quiz :
    ∃ package planned,
      generate Format.qti21.writer ⟨false, "", true⟩ excursion [] = .ok package ∧
      plan ⟨false, "", true⟩ excursion [] = .ok planned ∧
      planned.ListsItems package [⟨"map"⟩, ⟨"map_2"⟩, ⟨"map_3"⟩, ⟨"map_4"⟩] ∧
      excursion.itemCount = 4 := by
  have computed : (match plan ⟨false, "", true⟩ excursion [] with
      | .ok planned => planned.items.map Item.identifier
      | .error _ => []) = [⟨"map"⟩, ⟨"map_2"⟩, ⟨"map_3"⟩, ⟨"map_4"⟩] := by
    decide +kernel
  cases made : plan ⟨false, "", true⟩ excursion [] with
  | error problem =>
      rw [made] at computed
      cases computed
  | ok planned =>
      rw [made] at computed
      have ran : generate Format.qti21.writer ⟨false, "", true⟩ excursion [] =
          .ok (Format.qti21.writer.package planned excursion []) := by
        unfold generate
        rw [made]
        change (checkIntegrity (Format.qti21.writer.package planned excursion []) planned).bind _ = _
        rw [checkIntegrity_of_intact ((plan_ok made).intact .qti21)]
        rfl
      obtain ⟨same, identifiers, again, _, _, lists, _, counted, _⟩ :=
        generated_package_follows_quiz ran
      rw [made] at again
      cases again
      obtain rfl := lists.items.symm.trans computed
      exact ⟨_, planned, ran, rfl, lists, counted.symm⟩

end QuizPackage
