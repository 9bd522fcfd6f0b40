import QuizPackage.Proofs.Item.Building
import QuizPackage.Proofs.Processing.Conditions

namespace QuizPackage

variable {question : Question} {answers : List String} {issued : ItemIdentifiers}
  {location : Location} {synthesis : Synthesis}

theorem Text.lowerAfter_ne_nil (before : List Char) (c : Char) (rest : List Char) :
    lowerAfter before (c :: rest) ≠ [] := by
  rw [lowerAfter]
  split
  · simp
  · split <;> simp

/-- Small letters are left of every text but the empty one. -/
theorem Text.lower_eq_empty_iff {text : String} : lower text = "" ↔ text = "" := by
  constructor
  · intro empty
    cases letters : text.toList with
    | nil => exact String.toList_eq_nil_iff.mp letters
    | cons c rest =>
        have nothing : lowerAfter [] text.toList = [] := by
          rw [← String.toList_ofList (l := lowerAfter [] text.toList)]
          exact String.toList_eq_nil_iff.mpr empty
        rw [letters] at nothing
        exact absurd nothing (lowerAfter_ne_nil [] c rest)
  · intro empty
    subst empty
    rfl

theorem mem_acceptedTexts {text : String} :
    text ∈ acceptedTexts answers ↔ text ≠ "" ∧ text ∈ answers.map Text.trim := by
  simp [acceptedTexts, and_comm]

theorem exists_acceptedText_iff {text : String} :
    (∃ answer ∈ acceptedTexts answers, Text.lower answer = Text.lower text) ↔
      ∃ answer ∈ answers, Text.trim answer ≠ "" ∧
        Text.lower (Text.trim answer) = Text.lower text := by
  simp [mem_acceptedTexts, and_assoc, and_left_comm]

/-- What is left of an accepted text has small letters. -/
theorem not_exists_acceptedText_empty :
    ¬∃ answer ∈ answers, Text.trim answer ≠ "" ∧
      Text.lower (Text.trim answer) = Text.lower "" := by
  intro ⟨answer, _, filled, same⟩
  exact filled (Text.lower_eq_empty_iff.mp same)

/-- The first text in a response decides its score. -/
theorem Question.score_shortAnswer (apart : issued.variables.Nodup)
    (asked : question.kind = .shortAnswer answers)
    (reads : Number.read? (Number.literal question.points) = some question.points)
    (response : Response) :
    ((question.synthesis issued).score response).score =
      match response.value.scalars.head? with
      | some scalar =>
          if ∃ answer ∈ acceptedTexts answers, Text.lower answer = Text.lower scalar.written then
            question.points
          else 0.0
      | none => 0.0 := by
  have decided : question.kind.condition? issued =
      some (.any ((acceptedTexts answers).map (isText issued.response))) := by
    rw [asked]
    rfl
  have read := start_response question issued response
  have met := anyHolds_map_iff fun answer (_ : answer ∈ acceptedTexts answers) =>
    @isText_holds _ _ answer read
  change _ ↔ ∃ scalar, response.value.scalars.head? = some scalar ∧ _ at met
  rw [Question.score_of_condition apart decided response, Number.reread_of_read reads]
  cases first : response.value.scalars.head? with
  | some scalar =>
      rw [first] at met
      simp only [Option.some.injEq, exists_eq_left'] at met
      simp only [met]
  | none =>
      rw [first] at met
      simp only [reduceCtorEq, false_and, exists_false] at met
      exact if_neg met.mp

/-- A text earns all points if its small letters are those of an accepted text, which is trimmed
though the response is not; any other text earns nothing. It makes no difference whether it is given
as a selection, nor how often, in which order and with which blank characters around them the
accepted texts are listed. The variables are apart from each other, as those issued for a question
always are. -/
theorem text_earns_points_if_accepted (apart : issued.variables.Nodup)
    (asked : question.kind = .shortAnswer answers)
    (accepted : synthesize question issued location = .ok synthesis)
    (reads : Number.read? (Number.literal question.points) = some question.points) :
    (∀ text, (synthesis.score (.text text)).score =
      if ∃ answer ∈ answers, Text.trim answer ≠ "" ∧
          Text.lower (Text.trim answer) = Text.lower text then question.points
      else 0.0) ∧
    (∀ text, (synthesis.score (.identifier text)).score = (synthesis.score (.text text)).score) ∧
    (synthesis.score (.text "")).score = 0.0 ∧
    ∀ others, (∀ text, text ≠ "" →
        (text ∈ others.map Text.trim ↔ text ∈ answers.map Text.trim)) →
      ∃ other, synthesize { question with kind := .shortAnswer others } issued location =
          .ok other ∧
        ∀ response, (other.score response).score = (synthesis.score response).score := by
  obtain ⟨scorable, rfl⟩ := (synthesize_ok_iff (by rw [asked]; rfl)).mp accepted
  have score := Question.score_shortAnswer apart asked reads
  have selected (text : String) : ((question.synthesis issued).score (.identifier text)).score =
      if ∃ answer ∈ answers, Text.trim answer ≠ "" ∧
          Text.lower (Text.trim answer) = Text.lower text then question.points
      else 0.0 := by
    simp only [← exists_acceptedText_iff]
    exact score (.identifier text)
  have nothing : ((question.synthesis issued).score (.text "")).score = 0.0 := score (.text "")
  have same (text : String) : ((question.synthesis issued).score (.identifier text)).score =
      ((question.synthesis issued).score (.text text)).score := by
    by_cases empty : text = ""
    · subst empty
      rw [nothing]
      exact (selected "").trans (if_neg not_exists_acceptedText_empty)
    · have value : (Response.text text).value = (Response.identifier text).value :=
        if_neg (by simpa using empty)
      rw [score, score, value]
  refine ⟨fun text => (same text).symm.trans (selected text), same, nothing, ?_⟩
  intro others alike
  have members (text : String) : text ∈ acceptedTexts others ↔ text ∈ acceptedTexts answers := by
    rw [mem_acceptedTexts, mem_acceptedTexts]
    exact and_congr_right (alike text)
  have decisive : (QuestionKind.shortAnswer others).Decisive := by
    have listed : (QuestionKind.shortAnswer answers).Decisive := asked ▸ scorable.decisive
    obtain ⟨answer, member, filled⟩ := listed
    obtain ⟨other, same, equal⟩ :=
      List.mem_map.mp ((alike _ filled).mpr (List.mem_map_of_mem member))
    exact ⟨other, same, equal.symm ▸ filled⟩
  refine ⟨_, (synthesize_ok_iff rfl).mpr
    ⟨⟨scorable.finite, scorable.nonnegative, decisive⟩, rfl⟩, fun response => ?_⟩
  let other : Question := { question with kind := .shortAnswer others }
  have otherScore := other.score_shortAnswer apart rfl reads response
  simp only [members] at otherScore
  exact otherScore.trans (score response).symm

def santa : Question :=
  { title := some "Presents"
    prompt := "<p>Who brings presents?</p>"
    points := 1.0
    kind := .shortAnswer ["  ", " Saint Nick ", "SANTA", "Santa"]
    feedback := ⟨none, none, none⟩
    assets := [] }

theorem santa_earns_point_if_accepted :
    ∃ identifiers after synthesis other,
      issueItemIdentifiers santa (.top 0) (Registry.empty "" false) = .ok identifiers after ∧
      synthesize santa identifiers (.top 0) = .ok synthesis ∧
      (synthesis.score (.text "saint NICK")).score = 1.0 ∧
      (synthesis.score (.identifier "santa")).score = 1.0 ∧
      (synthesis.score (.text " Saint Nick ")).score = 0.0 ∧
      (synthesis.score (.text "  ")).score = 0.0 ∧
      synthesize { santa with kind := .shortAnswer ["Santa ", "Saint Nick", "SANTA"] } identifiers
        (.top 0) = .ok other ∧
      (other.score (.text "saint NICK")).score = 1.0 := by
  obtain ⟨identifiers, after, issued, _⟩ :=
    issueItemIdentifiers_lenient santa (.top 0) (Registry.empty "" false) rfl
  have scorable := Question.fault?_eq_none_iff.mp
    (Option.isNone_iff_eq_none.mp (by decide +kernel : santa.fault?.isNone = true))
  have accepted : synthesize santa identifiers (.top 0) = .ok (santa.synthesis identifiers) :=
    (synthesize_ok_iff rfl).mpr ⟨scorable, rfl⟩
  obtain ⟨earned, same, _, unordered⟩ := text_earns_points_if_accepted
    (issueItemIdentifiers_ok issued).distinct rfl accepted (by decide +kernel)
  have nick := (earned "saint NICK").trans (if_pos (by decide +kernel))
  obtain ⟨other, made, alike⟩ := unordered ["Santa ", "Saint Nick", "SANTA"] (by
    intro text filled
    have left : ["Santa ", "Saint Nick", "SANTA"].map Text.trim =
        ["Santa", "Saint Nick", "SANTA"] := by decide +kernel
    have right : ["  ", " Saint Nick ", "SANTA", "Santa"].map Text.trim =
        ["", "Saint Nick", "SANTA", "Santa"] := by decide +kernel
    rw [left, right]
    simp only [List.mem_cons, List.not_mem_nil, or_false, filled, false_or]
    tauto)
  exact ⟨identifiers, after, _, other, issued, accepted, nick,
    (same _).trans ((earned _).trans (if_pos (by decide +kernel))),
    (earned _).trans (if_neg (by decide +kernel)), (earned _).trans (if_neg (by decide +kernel)),
    made, (alike _).trans nick⟩

end QuizPackage
