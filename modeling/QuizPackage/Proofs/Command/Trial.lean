import QuizPackage.Command.Validate
import QuizPackage.Proofs.Package.Items
import QuizPackage.Proofs.Package.Plan
import QuizPackage.Proofs.Package.Words

namespace QuizPackage

variable {options : Options} {quiz : Quiz} {assets : AssetMap}

/-- Without strictness, neither the suffix nor the order of choices decides whether a quiz can be
planned. -/
theorem plan_ok_iff_packable (lenient : options.strict = false) :
    (∃ planned, plan options quiz assets = .ok planned) ↔ quiz.Packable assets := by
  rw [plan_ok_iff]
  have start : (Registry.empty options.suffix options.strict).strict = false := lenient
  rcases buildAll_verdict start quiz assets options.shuffle with
    ⟨problem, pieces, verdict⟩ | ⟨items, after, ran, pieces, verdict⟩
  · have improper : ¬quiz.Packable assets := by
      intro packable
      have proper := Quiz.pieces_proper_iff.mpr ⟨packable.scorable, packable.named⟩
      rw [pieces_findSome?_eq_none_iff.mpr proper] at pieces
      cases pieces
    simp [verdict, improper]
  · rw [verdict, packable_iff (buildItems_ok ran)]
    exact (and_iff_right pieces).symm

/-- Writing a plan never fails, so a package comes of every quiz that can be planned. -/
theorem generate_ok_iff_plan_ok (format : Format) :
    (∃ package, generate format.writer options quiz assets = .ok package) ↔
      ∃ planned, plan options quiz assets = .ok planned := by
  constructor
  · rintro ⟨package, ran⟩
    obtain ⟨planned, made, _⟩ := generate_ok ran
    exact ⟨planned, made⟩
  · rintro ⟨planned, made⟩
    exact ⟨_, generate_format format made⟩

namespace Command

/-- The trial of a quiz comes to a plan, so that at most its answer keys are at fault. -/
def IsPlanned (quiz : Quiz) (assets : Option AssetMap) : Prop :=
  ∀ problem, .unplanned problem ∉ quizFaults quiz assets

theorem keyFault?_ne_unplanned (item : Item) (problem : Problem) :
    keyFault? item ≠ some (.unplanned problem) := by
  unfold keyFault?
  split
  · exact nofun
  · dsimp only
    split <;> exact nofun

theorem isPlanned_iff {given : Option AssetMap} :
    IsPlanned quiz given ↔
      ∃ planned, plan trialOptions quiz (given.getD (stubAssets quiz)) = .ok planned := by
  unfold IsPlanned quizFaults
  cases plan trialOptions quiz (given.getD (stubAssets quiz)) with
  | error problem => simp
  | ok planned => simp [keyFault?_ne_unplanned]

/-- The stubs of a quiz stand for every asset that it lists, and for no other. -/
theorem stubAssets_names (quiz : Quiz) : (stubAssets quiz).map Prod.fst = quiz.assets := by
  simp [stubAssets, Function.comp_def]

/-- With every listed asset supplied, assets only decide by their names. -/
theorem packable_stubAssets_iff (supplied : ∀ name ∈ quiz.assets, name ∈ assets.map Prod.fst) :
    quiz.Packable (stubAssets quiz) ↔ quiz.Packable assets := by
  constructor
  · rintro ⟨scorable, named, selectable, _⟩
    exact ⟨scorable, named, selectable, supplied⟩
  · rintro ⟨scorable, named, selectable, _⟩
    exact ⟨scorable, named, selectable, fun name listed => by rwa [stubAssets_names]⟩

/-- A trial agrees with the generation of a package, whatever the format, the suffix and the order
of choices are: with the same assets, and without assets if the package gets all that are listed. -/
theorem trial_agrees_with_generation (format : Format) (suffix : String) (shuffle : Bool)
    (quiz : Quiz) (assets : AssetMap) :
    ((∀ name ∈ quiz.assets, name ∈ assets.map Prod.fst) →
      (IsPlanned quiz none ↔
        ∃ package, generate format.writer ⟨false, suffix, shuffle⟩ quiz assets = .ok package)) ∧
    (IsPlanned quiz (some assets) ↔
      ∃ package, generate format.writer ⟨false, suffix, shuffle⟩ quiz assets = .ok package) := by
  have lenient : trialOptions.strict = false := rfl
  rw [generate_ok_iff_plan_ok, plan_ok_iff_packable rfl, isPlanned_iff, isPlanned_iff,
    plan_ok_iff_packable lenient, plan_ok_iff_packable lenient]
  exact ⟨packable_stubAssets_iff, Iff.rfl⟩

def tidePool : Question :=
  { title := some "Tide"
    prompt := "<p><img src=\"pool.svg\"/> What lives here?</p>"
    points := 2.0
    kind := .multipleAnswer [.plain "Crabs" true, .plain "Larks" false, .plain "Snails" true]
    feedback := ⟨none, some "Yes", none⟩
    assets := ["pool.svg", "shore/crab.png"] }

/-- A quiz with assets in a question, in the members of a group and in a text. -/
def shoreline : Quiz :=
  { title := "Shoreline"
    description := ""
    entries := [
      .text ⟨some "Tide", "<p>Mind the tide.</p>", ["table.csv"]⟩,
      .group ⟨none, 1, [tidePool, { tidePool with title := none }]⟩,
      .question tidePool] }

def shoreAssets : AssetMap := [
  ("table.csv", ⟨.empty, "text/csv"⟩),
  ("shore/crab.png", ⟨.empty, "image/png"⟩),
  ("pool.svg", ⟨.empty, "image/svg+xml"⟩),
  ("unused.txt", ⟨.empty, "text/plain"⟩)]

theorem shoreline_trial_agrees :
    (∀ name ∈ shoreline.assets, name ∈ shoreAssets.map Prod.fst) ∧
    IsPlanned shoreline none ∧ IsPlanned shoreline (some shoreAssets) ∧
    ∃ package, generate Format.qti21.writer ⟨false, "summer", true⟩ shoreline shoreAssets =
      .ok package := by
  have supplied : ∀ name ∈ shoreline.assets, name ∈ shoreAssets.map Prod.fst := by decide
  have trial : IsPlanned shoreline none := by
    have computed : (quizFaults shoreline none).length = 0 := by decide +kernel
    intro problem
    simp [List.eq_nil_of_length_eq_zero computed]
  obtain ⟨without, given⟩ :=
    trial_agrees_with_generation .qti21 "summer" true shoreline shoreAssets
  have generated := (without supplied).mp trial
  exact ⟨supplied, trial, given.mpr generated, generated⟩

end Command

end QuizPackage
