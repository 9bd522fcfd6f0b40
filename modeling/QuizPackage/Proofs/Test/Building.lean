import QuizPackage.Proofs.Package.Pieces
import Mathlib.Data.List.Forall2

namespace QuizPackage

def Registry.Refers (registry : Registry) (entity : Entity) (reference : ItemReference) : Prop :=
  ∃ identifier, registry.lookup entity = some identifier ∧ reference = .to identifier

/-- The part of a test that an entry has become. -/
inductive Entry.BuiltAs (registry : Registry) (index : Nat) : Entry → SectionPart → Prop
  | question {single : Question} {identifier : Identifier}
      (bound : registry.lookup (.question (.top index)) = some identifier) :
      BuiltAs registry index (.question single) (.item (.to identifier))
  | text {region : TextRegion} {identifier : Identifier}
      (bound : registry.lookup (.text index) = some identifier) :
      BuiltAs registry index (.text region) (.item (.to identifier))
  | group {pool : Group} {identifier : Identifier} {title : String}
      {references : List ItemReference} (selectable : pool.isSelectable = true)
      (bound : registry.lookup (.group index) = some identifier)
      (members : List.Forall₂ (fun piece => registry.Refers piece.entity)
        ((Entry.group pool).pieces index) references) :
      BuiltAs registry index (.group pool) (.group ⟨identifier, title, pool.pick, true, references⟩)

structure Test.BuiltFrom (test : Test) (quiz : Quiz) (registry : Registry) : Prop where
  identifier : registry.lookup .test = some test.identifier
  score : registry.isVariableOf test.identifier test.score = true
  part : registry.lookup .testPart = some test.part
  rootSection : registry.lookup .rootSection = some test.rootSection
  parts : List.Forall₂ (fun indexed part => indexed.1.BuiltAs registry indexed.2 part)
    quiz.entries.zipIdx test.parts

inductive Entity.IsOfTest : Entity → Prop
  | test : IsOfTest .test
  | testPart : IsOfTest .testPart
  | rootSection : IsOfTest .rootSection
  | group (entry : Nat) : IsOfTest (.group entry)

/-- Every piece is bound to an identifier. -/
def Registry.HoldsPieces (registry : Registry) (pieces : List Piece) : Prop :=
  ∀ piece ∈ pieces, ∃ identifier, registry.lookup piece.entity = some identifier

variable {registry before after : Registry} {permitted : Entity → Prop} {quiz : Quiz}
  {test : Test} {pool : Group} {entry : Entry} {index : Nat}

theorem Registry.HoldsPieces.mono {pieces : List Piece} (holds : before.HoldsPieces pieces)
    (reaches : before.Reaches permitted after) : after.HoldsPieces pieces := by
  intro piece member
  obtain ⟨identifier, bound⟩ := holds piece member
  exact ⟨identifier, reaches.lookup_eq_some bound⟩

theorem Registry.Refers.mono {entity : Entity} {reference : ItemReference}
    (refers : before.Refers entity reference) (reaches : before.Reaches permitted after) :
    after.Refers entity reference := by
  obtain ⟨identifier, bound, rfl⟩ := refers
  exact ⟨identifier, reaches.lookup_eq_some bound, rfl⟩

theorem Entry.BuiltAs.mono {part : SectionPart} (built : entry.BuiltAs before index part)
    (reaches : before.Reaches permitted after) : entry.BuiltAs after index part := by
  cases built with
  | question bound => exact .question (reaches.lookup_eq_some bound)
  | text bound => exact .text (reaches.lookup_eq_some bound)
  | group selectable bound members =>
      exact .group selectable (reaches.lookup_eq_some bound)
        (members.imp fun _ _ refers => refers.mono reaches)

theorem Entry.BuiltAs.items {part : SectionPart} (built : entry.BuiltAs registry index part) :
    List.Forall₂ (fun piece => registry.Refers piece.entity) (entry.pieces index) part.items := by
  cases built with
  | question bound => exact .cons ⟨_, bound, rfl⟩ .nil
  | text bound => exact .cons ⟨_, bound, rfl⟩ .nil
  | group selectable bound members => exact members

theorem Test.BuiltFrom.mono (built : test.BuiltFrom quiz before)
    (reaches : before.Reaches permitted after) : test.BuiltFrom quiz after where
  identifier := reaches.lookup_eq_some built.identifier
  score := reaches.isVariableOf built.score
  part := reaches.lookup_eq_some built.part
  rootSection := reaches.lookup_eq_some built.rootSection
  parts := built.parts.imp fun _ _ part => part.mono reaches

/-- The items of a test are those of the pieces of its quiz. -/
theorem Test.BuiltFrom.items (built : test.BuiltFrom quiz registry) :
    List.Forall₂ (fun piece => registry.Refers piece.entity) quiz.pieces test.items := by
  have parts := built.parts
  unfold Quiz.pieces Test.items
  generalize quiz.entries.zipIdx = entries at parts ⊢
  generalize test.parts = sections at parts ⊢
  induction parts with
  | nil => exact .nil
  | cons part _ ih => exact List.rel_append part.items ih

def Group.problem? (pool : Group) (entry : Nat) : Option Problem :=
  if pool.isSelectable then none
  else some (.invalidGroup (.top entry) pool.pick pool.questions.length)

def Entry.groupProblem? (index : Nat) : Entry → Option Problem
  | .group pool => pool.problem? index
  | .question _ | .text _ => none

theorem builtItem_within (entity : Entity) : (builtItem entity).Within permitted := by
  intro registry
  unfold Issuing.finish builtItem
  cases registry.lookup entity <;> exact .refl registry

theorem builtItem_ok {entity : Entity} {reference : ItemReference}
    (ran : builtItem entity registry = .ok reference after) :
    after.Refers entity reference := by
  unfold builtItem at ran
  split at ran
  · rename_i identifier bound
    cases ran
    exact ⟨identifier, bound, rfl⟩
  · cases ran

theorem builtItem_verdict {entity : Entity}
    (bound : ∃ identifier, registry.lookup entity = some identifier) :
    (builtItem entity).verdict registry = none := by
  obtain ⟨identifier, known⟩ := bound
  simp [Issuing.verdict, builtItem, known]

theorem builtItems_verdict {places : List Nat} (entity : Nat → Entity)
    (bound : ∀ place ∈ places, ∃ identifier, registry.lookup (entity place) = some identifier) :
    (places.mapM fun place => builtItem (entity place)).verdict registry = none := by
  have within : ∀ place ∈ places, (builtItem (entity place)).Within Entity.IsOfTest :=
    fun _ _ => builtItem_within _
  rw [Issuing.verdict_mapM (fun _ => none) within]
  · simp
  · intro place inside before later
    obtain ⟨identifier, known⟩ := bound place inside
    exact builtItem_verdict ⟨identifier, later.lookup_eq_some known⟩

theorem Entry.group_pieces (pool : Group) (index : Nat) :
    ((Entry.group pool).pieces index).map Piece.entity =
      (List.range pool.questions.length).map fun member => .question (.inGroup index member) := by
  rw [List.range_eq_range', ← List.zipIdx_map_snd 0 pool.questions, Entry.pieces, List.map_map,
    List.map_map]
  rfl

theorem buildGroup_eq (pool : Group) (entry : Nat) :
    buildGroup pool entry = (do
      Issuing.attempt (pool.problem? entry) ()
      let identifier ← issueFor (.group entry) .testSection pool.title
      let items ← (List.range pool.questions.length).mapM fun member =>
        builtItem (.question (.inGroup entry member))
      return ⟨identifier, (Text.present? pool.title).getD s!"Group {entry + 1}", pool.pick, true,
        items⟩) := by
  unfold buildGroup Group.problem?
  cases pool.isSelectable <;> rfl

theorem buildGroup_within (pool : Group) (entry : Nat) :
    (buildGroup pool entry).Within Entity.IsOfTest := by
  rw [buildGroup_eq]
  refine (Issuing.attempt_within _ _).bind fun _ => ?_
  refine (issueFor_within _ _ _ (.group entry)).bind fun identifier => ?_
  refine (Issuing.Within.mapM _ fun member _ => builtItem_within _).bind fun items => ?_
  exact .pure _

theorem buildGroup_ok {pooled : GroupSection}
    (ran : buildGroup pool index registry = .ok pooled after) :
    (Entry.group pool).BuiltAs after index (.group pooled) := by
  rw [buildGroup_eq] at ran
  obtain ⟨_, first, attempted, issuing⟩ := Issuing.bind_ok.mp ran
  obtain ⟨fine, _, _⟩ := Issuing.attempt_ok.mp attempted
  obtain ⟨identifier, second, issued, finding⟩ := Issuing.bind_ok.mp issuing
  obtain ⟨items, last, found, finished⟩ := Issuing.bind_ok.mp finding
  cases finished
  have within : ∀ member ∈ List.range pool.questions.length,
      (builtItem (.question (.inGroup index member))).Within Entity.IsOfTest :=
    fun _ _ => builtItem_within _
  have members := Issuing.mapM_ok
    (fun member reference registry => registry.Refers (.question (.inGroup index member)) reference)
    within (fun _ _ _ _ reaches refers => refers.mono reaches)
    (fun _ _ _ _ _ _ ran => builtItem_ok ran) found
  have bound := ((Issuing.Within.mapM _ within).reaches found).lookup_eq_some (issueFor_ok issued)
  refine .group ?_ bound ?_
  · by_contra unselectable
    simp [Group.problem?, unselectable] at fine
  · refine (List.forall₂_map_left_iff (f := Piece.entity)).mp ?_
    rw [Entry.group_pieces]
    exact List.forall₂_map_left_iff.mpr members

/-- Where its members are bound, a group that can be picked from always becomes a section. -/
theorem buildGroup_verdict (lenient : registry.strict = false)
    (holds : registry.HoldsPieces ((Entry.group pool).pieces index)) :
    (buildGroup pool index).verdict registry = pool.problem? index := by
  obtain ⟨identifier, middle, issued, _⟩ :=
    issueFor_lenient (.group index) .testSection pool.title registry lenient
  have reaches : registry.Reaches Entity.IsOfTest middle :=
    (issueFor_within _ _ _ (.group index)).reaches issued
  have bound : ∀ member ∈ List.range pool.questions.length,
      ∃ known, middle.lookup (.question (.inGroup index member)) = some known := by
    intro member inside
    have listed : Entity.question (.inGroup index member) ∈
        ((Entry.group pool).pieces index).map Piece.entity := by
      rw [Entry.group_pieces]
      exact List.mem_map_of_mem inside
    obtain ⟨piece, listed, equal⟩ := List.mem_map.mp listed
    rw [← equal]
    exact holds.mono reaches piece listed
  obtain ⟨items, last, found⟩ := Issuing.verdict_eq_none.mp (builtItems_verdict _ bound)
  rw [buildGroup_eq, Issuing.verdict_attempt_bind, Issuing.verdict_bind_of_ok issued,
    Issuing.verdict_bind_of_ok found]
  cases pool.problem? index <;> rfl

theorem buildPart_within (entry : Entry) (index : Nat) :
    (buildPart entry index).Within Entity.IsOfTest := by
  cases entry with
  | question single => exact (builtItem_within _).map _
  | text region => exact (builtItem_within _).map _
  | group pool => exact (buildGroup_within pool index).map _

theorem buildPart_ok {part : SectionPart}
    (ran : buildPart entry index registry = .ok part after) :
    entry.BuiltAs after index part := by
  cases entry with
  | question single =>
      obtain ⟨reference, found, rfl⟩ := Issuing.map_ok.mp ran
      obtain ⟨identifier, bound, rfl⟩ := builtItem_ok found
      exact .question bound
  | text region =>
      obtain ⟨reference, found, rfl⟩ := Issuing.map_ok.mp ran
      obtain ⟨identifier, bound, rfl⟩ := builtItem_ok found
      exact .text bound
  | group pool =>
      obtain ⟨pooled, made, rfl⟩ := Issuing.map_ok.mp ran
      exact buildGroup_ok made

theorem buildPart_verdict (lenient : registry.strict = false)
    (holds : registry.HoldsPieces (entry.pieces index)) :
    (buildPart entry index).verdict registry = entry.groupProblem? index := by
  cases entry with
  | question single =>
      exact (Issuing.verdict_map _ _).trans (builtItem_verdict (holds _ (.head _)))
  | text region =>
      exact (Issuing.verdict_map _ _).trans (builtItem_verdict (holds _ (.head _)))
  | group pool =>
      exact (Issuing.verdict_map _ _).trans (buildGroup_verdict lenient holds)

theorem buildTest_within (quiz : Quiz) : (buildTest quiz).Within Entity.IsOfTest := by
  refine (issueFor_within _ _ _ .test).bind fun identifier => ?_
  refine (issueVariable_within _ _).bind fun score => ?_
  refine (issueFor_within _ _ _ .testPart).bind fun part => ?_
  refine (issueFor_within _ _ _ .rootSection).bind fun rootSection => ?_
  refine (Issuing.Within.mapM _ fun indexed _ => buildPart_within _ _).bind fun parts => ?_
  exact .pure _

/-- The test that is built for a quiz is bound to it, and so are its parts to the entries. -/
theorem buildTest_ok (ran : buildTest quiz registry = .ok test after) :
    test.BuiltFrom quiz after := by
  obtain ⟨identifier, first, one, ran⟩ := Issuing.bind_ok.mp ran
  obtain ⟨score, second, two, ran⟩ := Issuing.bind_ok.mp ran
  obtain ⟨part, third, three, ran⟩ := Issuing.bind_ok.mp ran
  obtain ⟨rootSection, fourth, four, ran⟩ := Issuing.bind_ok.mp ran
  obtain ⟨parts, last, five, ran⟩ := Issuing.bind_ok.mp ran
  cases ran
  have within : ∀ indexed ∈ quiz.entries.zipIdx,
      (buildPart indexed.1 indexed.2).Within Entity.IsOfTest := fun _ _ => buildPart_within _ _
  have fromFourth := (Issuing.Within.mapM _ within).reaches five
  have fromThird := ((issueFor_within _ _ _ .rootSection).reaches four).trans fromFourth
  have fromSecond := ((issueFor_within _ _ _ .testPart).reaches three).trans fromThird
  have fromFirst := ((issueVariable_within _ _).reaches two).trans fromSecond
  exact {
    identifier := fromFirst.lookup_eq_some (issueFor_ok one)
    score := fromSecond.isVariableOf (issueVariable_ok two).2
    part := fromThird.lookup_eq_some (issueFor_ok three)
    rootSection := fromFourth.lookup_eq_some (issueFor_ok four)
    parts := Issuing.mapM_ok
      (fun indexed part registry => indexed.1.BuiltAs registry indexed.2 part)
      within (fun _ _ _ _ reaches built => built.mono reaches)
      (fun _ _ _ _ _ _ ran => buildPart_ok ran) five }

/-- Once the items are bound, the first group that cannot be picked from decides why a test is not
built. -/
theorem buildTest_verdict (lenient : registry.strict = false)
    (holds : registry.HoldsPieces quiz.pieces) :
    (buildTest quiz).verdict registry =
      quiz.entries.zipIdx.findSome? fun (entry, index) => entry.groupProblem? index := by
  obtain ⟨identifier, first, one, firstLenient⟩ :=
    issueFor_lenient .test .test (some quiz.title) registry lenient
  obtain ⟨score, second, two, secondLenient⟩ :=
    issueVariable_lenient identifier "SCORE" first firstLenient
  obtain ⟨part, third, three, thirdLenient⟩ :=
    issueFor_lenient .testPart .testPart none second secondLenient
  obtain ⟨rootSection, fourth, four, fourthLenient⟩ :=
    issueFor_lenient .rootSection .testSection (some "main_section") third thirdLenient
  have reaches := (((issueFor_within _ _ _ Entity.IsOfTest.test).reaches one).trans
    ((issueVariable_within _ _).reaches two)).trans
    (((issueFor_within _ _ _ .testPart).reaches three).trans
      ((issueFor_within _ _ _ .rootSection).reaches four))
  rw [buildTest, Issuing.verdict_bind_of_ok one, Issuing.verdict_bind_of_ok two,
    Issuing.verdict_bind_of_ok three, Issuing.verdict_bind_of_ok four]
  have within : ∀ indexed ∈ quiz.entries.zipIdx,
      (buildPart indexed.1 indexed.2).Within Entity.IsOfTest := fun _ _ => buildPart_within _ _
  refine (Issuing.verdict_map _ _).trans (Issuing.verdict_mapM _ within ?_)
  intro indexed member before later
  refine buildPart_verdict (later.grows.strict.trans fourthLenient) ?_
  refine Registry.HoldsPieces.mono (fun piece inside => ?_) (reaches.trans later)
  exact holds piece (List.mem_flatMap.mpr ⟨indexed, member, inside⟩)

end QuizPackage
