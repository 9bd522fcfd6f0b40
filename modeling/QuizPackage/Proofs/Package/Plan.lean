import QuizPackage.Proofs.Item.AssetLinks
import QuizPackage.Proofs.Manifest.Building
import QuizPackage.Proofs.Test.Building

namespace QuizPackage

/-- A group that picks at least one of its members, and not more than there are. -/
def Group.Selectable (pool : Group) : Prop :=
  1 ≤ pool.pick ∧ pool.pick ≤ pool.questions.length

/-- A quiz of which a package can be made with the files at hand. -/
structure Quiz.Packable (quiz : Quiz) (assets : AssetMap) : Prop where
  scorable : ∀ located ∈ quiz.questionsAt, located.2.Scorable
  named : ∀ name ∈ quiz.assets, isAssetName name = true
  selectable : ∀ pool, .group pool ∈ quiz.entries → pool.Selectable
  supplied : ∀ name ∈ quiz.assets, name ∈ assets.map Prod.fst

def Piece.question? : Piece → Option (Location × Question)
  | .question location single => some (location, single)
  | .text _ _ => none

/-- A piece whose question can be scored, and whose asset names are proper. -/
structure Piece.Proper (piece : Piece) : Prop where
  scorable : ∀ located ∈ piece.question?, located.2.Scorable
  named : ∀ name ∈ piece.assets, isAssetName name = true

/-- Why a quiz cannot be planned, where the registry is that of its items. -/
inductive Quiz.FailsWith (quiz : Quiz) (assets : AssetMap) (registry : Registry) : Problem → Prop
  /-- The question cannot be scored, and everything before it is proper. -/
  | question {front back : List Piece} {location : Location} {single : Question}
      {fault : QuestionFault} (place : quiz.pieces = front ++ .question location single :: back)
      (earlier : ∀ piece ∈ front, piece.Proper) (found : single.fault? = some fault) :
      FailsWith quiz assets registry (.invalidQuestion location fault)
  /-- The piece has an improper asset name, and everything before it is proper. -/
  | assetName {front back : List Piece} {piece : Piece} {name : String}
      (place : quiz.pieces = front ++ piece :: back) (earlier : ∀ piece ∈ front, piece.Proper)
      (scorable : ∀ located ∈ piece.question?, located.2.Scorable)
      (found : piece.assets.find? (fun name => !isAssetName name) = some name) :
      FailsWith quiz assets registry (.integrity (.improperAssetName name))
  /-- The group cannot be picked from, and all pieces and all groups before it are proper. -/
  | group {front back : List Entry} {pool : Group} (proper : ∀ piece ∈ quiz.pieces, piece.Proper)
      (place : quiz.entries = front ++ .group pool :: back)
      (earlier : ∀ other, .group other ∈ front → other.Selectable) (found : ¬pool.Selectable) :
      FailsWith quiz assets registry
        (.invalidGroup (.top front.length) pool.pick pool.questions.length)
  /-- The asset is missing, all pieces and groups are proper, and no asset is missing before. -/
  | asset {front back : List Piece} {piece : Piece} {name : String} {identifier : Identifier}
      (proper : ∀ piece ∈ quiz.pieces, piece.Proper)
      (selectable : ∀ pool, .group pool ∈ quiz.entries → pool.Selectable)
      (place : quiz.pieces = front ++ piece :: back)
      (earlier : ∀ other ∈ front, ∀ name ∈ other.assets, name ∈ assets.map Prod.fst)
      (found : piece.assets.find? assets.lacks = some name)
      (bound : registry.lookup piece.entity = some identifier) :
      FailsWith quiz assets registry (.integrity (.missingAsset identifier name))

variable {registry : Registry} {shuffle : Bool} {quiz : Quiz} {assets : AssetMap} {piece : Piece}
  {pool : Group} {item : Item} {problem : Problem}

theorem Entry.questionsAt_eq (entry : Entry) (index : Nat) :
    entry.questionsAt index = (entry.pieces index).filterMap Piece.question? := by
  cases entry with
  | question single => rfl
  | text region => rfl
  | group pool =>
      rw [Entry.pieces, List.filterMap_map]
      exact (congrFun List.filterMap_eq_map _).symm

theorem Entry.assets_eq (entry : Entry) (index : Nat) :
    entry.assets = (entry.pieces index).flatMap Piece.assets := by
  cases entry with
  | question single => simp [Entry.assets, Entry.pieces, Piece.assets]
  | text region => simp [Entry.assets, Entry.pieces, Piece.assets]
  | group pool =>
      have listed : pool.questions = pool.questions.zipIdx.map Prod.fst := by simp
      rw [Entry.assets, Entry.pieces, List.flatMap_map, listed, List.flatMap_map]
      simp [Piece.assets]

theorem Quiz.questionsAt_eq (quiz : Quiz) :
    quiz.questionsAt = quiz.pieces.filterMap Piece.question? := by
  simp only [Quiz.questionsAt, Quiz.pieces, List.filterMap_flatMap, Entry.questionsAt_eq]

theorem Quiz.assets_eq (quiz : Quiz) : quiz.assets = quiz.pieces.flatMap Piece.assets := by
  have listed : quiz.entries = quiz.entries.zipIdx.map Prod.fst := by simp
  rw [Quiz.assets, Quiz.pieces, List.flatMap_assoc]
  conv => lhs; rw [listed]
  rw [List.flatMap_map]
  simp only [← Entry.assets_eq]

/-- The pieces of a quiz are proper exactly if its questions and its asset names are. -/
theorem Quiz.pieces_proper_iff :
    (∀ piece ∈ quiz.pieces, piece.Proper) ↔
      (∀ located ∈ quiz.questionsAt, located.2.Scorable) ∧
        ∀ name ∈ quiz.assets, isAssetName name = true := by
  rw [Quiz.questionsAt_eq, Quiz.assets_eq]
  constructor
  · intro proper
    constructor
    · intro located member
      obtain ⟨piece, listed, asked⟩ := List.mem_filterMap.mp member
      exact (proper piece listed).scorable located asked
    · intro name member
      obtain ⟨piece, listed, inside⟩ := List.mem_flatMap.mp member
      exact (proper piece listed).named name inside
  · rintro ⟨scorable, named⟩ piece listed
    exact ⟨fun located asked => scorable located (List.mem_filterMap.mpr ⟨piece, listed, asked⟩),
      fun name inside => named name (List.mem_flatMap.mpr ⟨piece, listed, inside⟩)⟩

theorem Piece.problem?_eq_none_iff : piece.problem? = none ↔ piece.Proper := by
  cases piece with
  | question location single =>
      rw [Piece.problem?, Question.problem?_eq_none_iff, improperAssetName?_eq_none_iff]
      constructor
      · rintro ⟨scorable, named⟩
        refine ⟨fun located asked => ?_, named⟩
        cases asked
        exact scorable
      · rintro ⟨scorable, named⟩
        exact ⟨scorable (location, single) rfl, named⟩
  | text entry region =>
      rw [Piece.problem?, TextRegion.problem?, Option.map_eq_none_iff,
        improperAssetName?_eq_none_iff]
      exact ⟨fun named => ⟨fun located asked => (by cases asked), named⟩, fun proper => proper.named⟩

theorem Group.problem?_eq_none_iff {entry : Nat} :
    pool.problem? entry = none ↔ pool.Selectable := by
  have selectable : pool.isSelectable = true ↔ pool.Selectable := by
    simp [Group.isSelectable, Group.Selectable, Nat.one_le_iff_ne_zero]
  unfold Group.problem?
  rw [← selectable]
  split <;> simp_all

theorem AssetMap.lacks_eq_false_iff {name : String} :
    assets.lacks name = false ↔ name ∈ assets.map Prod.fst := by
  simp [AssetMap.lacks]

theorem Entry.groupProblem?_eq_none_iff {entry : Entry} {index : Nat} :
    entry.groupProblem? index = none ↔ ∀ pool, entry = .group pool → pool.Selectable := by
  cases entry with
  | question single => simp [Entry.groupProblem?]
  | text region => simp [Entry.groupProblem?]
  | group pool =>
      rw [Entry.groupProblem?, Group.problem?_eq_none_iff]
      simp

theorem Item.problem?_eq_none_iff (built : piece.BuiltAs registry shuffle item) :
    item.problem? assets = none ↔ ∀ name ∈ piece.assets, name ∈ assets.map Prod.fst := by
  rw [Item.problem?, Option.map_eq_none_iff, built.assets, find?_eraseDups, List.find?_eq_none]
  simp only [Bool.not_eq_true, AssetMap.lacks_eq_false_iff]

theorem holdsPieces_of_built {pieces : List Piece} {items : List Item}
    (built : List.Forall₂ (Piece.BuiltAs registry shuffle) pieces items) :
    registry.HoldsPieces pieces := by
  induction built with
  | nil => simp [Registry.HoldsPieces]
  | cons single _ ih =>
      intro piece member
      rcases List.mem_cons.mp member with rfl | member
      · exact ⟨_, single.lookup⟩
      · exact ih piece member

/-- Either the pieces stop a plan, or they are all proper, and then the groups or the assets do. -/
theorem buildAll_verdict (lenient : registry.strict = false) (quiz : Quiz) (assets : AssetMap)
    (shuffle : Bool) :
    (∃ problem, quiz.pieces.findSome? Piece.problem? = some problem ∧
      (buildAll quiz assets shuffle).verdict registry = some problem) ∨
    ∃ items after, quiz.pieces.mapM (buildPiece shuffle) registry = .ok items after ∧
      quiz.pieces.findSome? Piece.problem? = none ∧
      (buildAll quiz assets shuffle).verdict registry =
        (quiz.entries.zipIdx.findSome? (fun (entry, index) => entry.groupProblem? index) <|>
          items.findSome? (Item.problem? assets)) := by
  have pieces := buildItems_verdict lenient quiz shuffle
  cases built : quiz.pieces.mapM (buildPiece shuffle) registry with
  | error problem middle =>
      rw [Issuing.verdict_eq_some.mpr ⟨middle, built⟩] at pieces
      refine .inl ⟨problem, pieces.symm, ?_⟩
      rw [buildAll, Issuing.verdict_bind, built]
  | ok items middle =>
      rw [Issuing.verdict_eq_none.mpr ⟨items, middle, built⟩] at pieces
      refine .inr ⟨items, middle, rfl, pieces.symm, ?_⟩
      have still := ((buildItems_within quiz shuffle).reaches built).grows.strict.trans lenient
      have groups := buildTest_verdict still (holdsPieces_of_built (buildItems_ok built))
      rw [buildAll, Issuing.verdict_bind_of_ok built, ← groups]
      cases tested : buildTest quiz middle with
      | error problem last =>
          rw [Issuing.verdict_bind, tested, Issuing.verdict_eq_some.mpr ⟨last, tested⟩]
          rfl
      | ok test last =>
          have lastLenient := ((buildTest_within quiz).reaches tested).grows.strict.trans still
          rw [Issuing.verdict_bind_of_ok tested, Issuing.verdict_eq_none.mpr ⟨test, last, tested⟩]
          exact (Issuing.verdict_map _ _).trans
            (buildManifest_verdict lastLenient quiz test items assets)

theorem pieces_findSome?_eq_none_iff :
    quiz.pieces.findSome? Piece.problem? = none ↔ ∀ piece ∈ quiz.pieces, piece.Proper := by
  simp only [List.findSome?_eq_none_iff, Piece.problem?_eq_none_iff]

theorem groups_findSome?_eq_none_iff :
    quiz.entries.zipIdx.findSome? (fun (entry, index) => entry.groupProblem? index) = none ↔
      ∀ pool, .group pool ∈ quiz.entries → pool.Selectable := by
  simp only [List.findSome?_eq_none_iff, Entry.groupProblem?_eq_none_iff]
  constructor
  · intro fine pool member
    obtain ⟨index, inside, equal⟩ := List.getElem_of_mem member
    refine fine (.group pool, index) ?_ pool rfl
    rw [List.mem_zipIdx_iff_getElem?, ← equal]
    exact List.getElem?_eq_getElem inside
  · rintro fine ⟨entry, index⟩ member pool rfl
    exact fine pool (List.fst_mem_of_mem_zipIdx member)

theorem items_findSome?_eq_none_iff {items : List Item}
    (built : List.Forall₂ (Piece.BuiltAs registry shuffle) quiz.pieces items) :
    items.findSome? (Item.problem? assets) = none ↔
      ∀ name ∈ quiz.assets, name ∈ assets.map Prod.fst := by
  rw [Quiz.assets_eq]
  generalize quiz.pieces = pieces at built ⊢
  induction built with
  | nil => simp
  | cons single _ ih =>
      rw [List.findSome?_eq_none_iff] at ih ⊢
      simp only [List.forall_mem_cons, List.flatMap_cons, List.mem_append, or_imp, forall_and,
        ih, Item.problem?_eq_none_iff single]

/-- A quiz is packable exactly if no piece, no group and no asset is at fault. -/
theorem packable_iff {items : List Item}
    (built : List.Forall₂ (Piece.BuiltAs registry shuffle) quiz.pieces items) :
    quiz.Packable assets ↔
      quiz.pieces.findSome? Piece.problem? = none ∧
      (quiz.entries.zipIdx.findSome? (fun (entry, index) => entry.groupProblem? index) <|>
        items.findSome? (Item.problem? assets)) = none := by
  rw [Option.orElse_eq_orElse, Option.orElse_eq_or, Option.or_eq_none_iff,
    pieces_findSome?_eq_none_iff, groups_findSome?_eq_none_iff,
    items_findSome?_eq_none_iff built, Quiz.pieces_proper_iff]
  constructor
  · rintro ⟨scorable, named, selectable, supplied⟩
    exact ⟨⟨scorable, named⟩, selectable, supplied⟩
  · rintro ⟨⟨scorable, named⟩, selectable, supplied⟩
    exact ⟨scorable, named, selectable, supplied⟩

theorem improperAssetName?_eq_some {names : List String} {fault : IntegrityFault}
    (improper : improperAssetName? names = some fault) :
    ∃ name, names.find? (fun name => !isAssetName name) = some name ∧
      fault = .improperAssetName name := by
  obtain ⟨name, found, equal⟩ := Option.map_eq_some_iff.mp improper
  exact ⟨name, found, equal.symm⟩

theorem failsWith_of_pieces (found : quiz.pieces.findSome? Piece.problem? = some problem) :
    quiz.FailsWith assets registry problem := by
  obtain ⟨front, piece, back, place, broken, fine⟩ := List.findSome?_eq_some_iff.mp found
  have earlier : ∀ piece ∈ front, piece.Proper :=
    fun piece member => Piece.problem?_eq_none_iff.mp (fine piece member)
  cases piece with
  | question location single =>
      simp only [Piece.problem?, Question.problem?] at broken
      cases judged : single.fault? with
      | some fault =>
          rw [judged] at broken
          cases broken
          exact .question place earlier judged
      | none =>
          rw [judged] at broken
          obtain ⟨fault, improper, rfl⟩ := Option.map_eq_some_iff.mp broken
          obtain ⟨name, first, rfl⟩ := improperAssetName?_eq_some improper
          refine .assetName place earlier (fun located asked => ?_) first
          cases asked
          exact Question.fault?_eq_none_iff.mp judged
  | text entry region =>
      obtain ⟨fault, improper, rfl⟩ := Option.map_eq_some_iff.mp broken
      obtain ⟨name, first, rfl⟩ := improperAssetName?_eq_some improper
      exact .assetName place earlier (fun located asked => by cases asked) first

theorem failsWith_of_groups (proper : ∀ piece ∈ quiz.pieces, piece.Proper)
    (found : quiz.entries.zipIdx.findSome? (fun (entry, index) => entry.groupProblem? index) =
      some problem) : quiz.FailsWith assets registry problem := by
  obtain ⟨front, indexed, back, place, broken, fine⟩ := List.findSome?_eq_some_iff.mp found
  obtain ⟨before, rest, split, rfl, remaining⟩ := List.zipIdx_eq_append_iff.mp place
  obtain ⟨entry, after, rfl, rfl, rfl⟩ := List.zipIdx_eq_cons_iff.mp remaining.symm
  cases entry with
  | question single => cases broken
  | text region => cases broken
  | group pool =>
      simp only [Entry.groupProblem?, Nat.zero_add] at broken
      have unselectable : ¬pool.Selectable := by
        intro selectable
        rw [Group.problem?_eq_none_iff.mpr selectable] at broken
        cases broken
      have equal : problem = .invalidGroup (.top before.length) pool.pick pool.questions.length := by
        unfold Group.problem? at broken
        split at broken
        · cases broken
        · exact (Option.some.inj broken).symm
      rw [equal]
      refine .group proper split (fun other member => ?_) unselectable
      obtain ⟨index, inside, same⟩ := List.getElem_of_mem member
      refine Entry.groupProblem?_eq_none_iff.mp (fine (.group other, index) ?_) other rfl
      rw [List.mem_zipIdx_iff_getElem?, ← same]
      exact List.getElem?_eq_getElem inside

/-- The piece of an item stands where the item does. -/
theorem pieces_split {pieces : List Piece} {front back : List Item} {item : Item}
    (built : List.Forall₂ (Piece.BuiltAs registry shuffle) pieces (front ++ item :: back)) :
    ∃ before piece after, pieces = before ++ piece :: after ∧
      List.Forall₂ (Piece.BuiltAs registry shuffle) before front ∧
      piece.BuiltAs registry shuffle item := by
  have early := List.forall₂_take_append _ _ _ built
  have late := List.forall₂_drop_append _ _ _ built
  obtain ⟨piece, after, single, _, split⟩ := List.forall₂_cons_right_iff.mp late
  exact ⟨_, piece, after, by rw [← split, List.take_append_drop], early, single⟩

theorem failsWith_of_items {items : List Item} (proper : ∀ piece ∈ quiz.pieces, piece.Proper)
    (selectable : ∀ pool, .group pool ∈ quiz.entries → pool.Selectable)
    (built : List.Forall₂ (Piece.BuiltAs registry shuffle) quiz.pieces items)
    (found : items.findSome? (Item.problem? assets) = some problem) :
    quiz.FailsWith assets registry problem := by
  obtain ⟨front, item, back, rfl, broken, fine⟩ := List.findSome?_eq_some_iff.mp found
  obtain ⟨before, piece, after, place, early, single⟩ := pieces_split built
  obtain ⟨name, missing, rfl⟩ := Option.map_eq_some_iff.mp broken
  rw [single.assets, find?_eraseDups] at missing
  refine .asset proper selectable place ?_ missing single.lookup
  clear place built found
  induction early with
  | nil => simp
  | cons one _ ih =>
      rw [List.forall_mem_cons] at fine ⊢
      exact ⟨(Item.problem?_eq_none_iff one).mp fine.1, ih (fun item member => fine.2 item member)⟩

theorem plan_ok_iff {options : Options} :
    (∃ planned, plan options quiz assets = .ok planned) ↔
      (buildAll quiz assets options.shuffle).verdict
        (Registry.empty options.suffix options.strict) = none := by
  unfold plan Issuing.verdict
  cases buildAll quiz assets options.shuffle (Registry.empty options.suffix options.strict) <;>
    simp

theorem plan_error_iff {options : Options} :
    plan options quiz assets = .error problem ↔
      (buildAll quiz assets options.shuffle).verdict
        (Registry.empty options.suffix options.strict) = some problem := by
  unfold plan Issuing.verdict
  cases buildAll quiz assets options.shuffle (Registry.empty options.suffix options.strict) <;>
    simp

/-- Without strictness, a quiz can be planned exactly if it is packable, and otherwise its first
problem is reported. -/
theorem plan_succeeds_or_reports_first_problem (suffix : String) (shuffle : Bool) (quiz : Quiz)
    (assets : AssetMap) :
    ((∃ planned, plan ⟨false, suffix, shuffle⟩ quiz assets = .ok planned) ↔
      quiz.Packable assets) ∧
    ∀ problem, plan ⟨false, suffix, shuffle⟩ quiz assets = .error problem →
      quiz.FailsWith assets ((quiz.pieces.mapM (buildPiece shuffle)).finish
        (Registry.empty suffix false)) problem := by
  rw [plan_ok_iff]
  simp only [plan_error_iff]
  have lenient : (Registry.empty suffix false).strict = false := rfl
  rcases buildAll_verdict lenient quiz assets shuffle with
    ⟨problem, pieces, verdict⟩ | ⟨items, after, ran, pieces, verdict⟩
  · rw [verdict]
    constructor
    · constructor
      · intro impossible
        cases impossible
      · rintro ⟨scorable, named, _, _⟩
        rw [pieces_findSome?_eq_none_iff.mpr (Quiz.pieces_proper_iff.mpr ⟨scorable, named⟩)]
          at pieces
        cases pieces
    · intro other same
      cases same
      exact failsWith_of_pieces pieces
  · have built := buildItems_ok ran
    have proper := pieces_findSome?_eq_none_iff.mp pieces
    rw [verdict, packable_iff built, Issuing.finish_of_ok ran]
    refine ⟨⟨fun fine => ⟨pieces, fine⟩, fun fine => fine.2⟩, fun problem found => ?_⟩
    cases groups : quiz.entries.zipIdx.findSome?
        (fun (entry, index) => entry.groupProblem? index) with
    | some first =>
        rw [groups] at found
        cases found
        exact failsWith_of_groups proper groups
    | none =>
        rw [groups] at found
        exact failsWith_of_items proper (groups_findSome?_eq_none_iff.mp groups) built found

end QuizPackage
