import QuizPackage.Proofs.Identifier.Separation
import QuizPackage.Proofs.Package.Alike
import QuizPackage.Proofs.Package.Strictness

namespace QuizPackage

def page (entry : Nat) (title : String) : Call :=
  ⟨.text entry, .textItem, some title⟩

/-- A quiz of two titled regions of text. -/
def pages (first second : String) : Quiz :=
  ⟨"Pages", "", [.text ⟨some first, "", []⟩, .text ⟨some second, "", []⟩]⟩

variable {registry : Registry} {first second suffix : String} {planned : Plan}

theorem pages_calls (first second : String) :
    (pages first second).calls = page 0 first :: page 1 second :: (pages first second).testCalls :=
  rfl

theorem Registry.granted_cons (registry : Registry) (call : Call) (calls : List Call) :
    registry.granted (call :: calls) = (registry.grant call).2.granted calls := rfl

/-- The first two pages of a registry get the bases of their titles, if these are different. -/
theorem lookup_granted_pages (suffix : String) (calls : List Call)
    (differ : (page 1 second).base ≠ (page 0 first).base) :
    let start := Registry.empty suffix false
    let final := start.granted (page 0 first :: page 1 second :: calls)
    final.lookup (.text 0) = some (start.identifier (page 0 first).base) ∧
      final.lookup (.text 1) = some (start.identifier (page 1 second).base) := by
  intro start final
  have unbound : start.lookup (page 0 first).entity = none := rfl
  have own : (start.grant (page 0 first)).1 = start.identifier (page 0 first).base :=
    (Registry.grant_own_base_iff unbound).mpr List.not_mem_nil
  have bases : (start.grant (page 0 first)).2.bases = [(page 0 first).base] := by
    rw [Registry.grant_of_unbound unbound]
    exact congrArg (· :: []) (firstFree_of_free List.not_mem_nil)
  have nextUnbound : (start.grant (page 0 first)).2.lookup (page 1 second).entity = none :=
    Registry.lookup_grant_of_ne (by simp [page])
  have nextOwn : ((start.grant (page 0 first)).2.grant (page 1 second)).1 =
      start.identifier (page 1 second).base := by
    rw [← Registry.identifier_congr (start.grant_suffix (page 0 first)),
      Registry.grant_own_base_iff nextUnbound, bases, List.mem_singleton]
    exact differ
  have bound := start.lookup_grant (page 0 first)
  have nextBound := (start.grant (page 0 first)).2.lookup_grant (page 1 second)
  rw [own] at bound
  rw [nextOwn] at nextBound
  simp only [final, Registry.granted_cons]
  refine ⟨Registry.lookup_granted ?_ calls, Registry.lookup_granted nextBound calls⟩
  rw [Registry.lookup_grant_of_ne (by simp [page])]
  exact bound

theorem pages_packable (first second : String) : (pages first second).Packable [] where
  scorable := by simp [pages, Quiz.questionsAt, Entry.questionsAt]
  named := by simp [pages, Quiz.assets, Entry.assets]
  selectable := by simp [pages]
  supplied := by simp [pages, Quiz.assets, Entry.assets]

theorem pages_planned (suffix : String)
    (differ : (page 1 second).base ≠ (page 0 first).base) :
    ∃ planned, plan ⟨false, suffix, false⟩ (pages first second) [] = .ok planned ∧
      planned.registry.lookup (.text 0) =
        some ((Registry.empty suffix false).identifier (page 0 first).base) ∧
      planned.registry.lookup (.text 1) =
        some ((Registry.empty suffix false).identifier (page 1 second).base) := by
  have packable := pages_packable first second
  obtain ⟨planned, made⟩ :=
    (plan_succeeds_or_reports_first_problem suffix false (pages first second) []).1.mpr packable
  obtain ⟨_, _, kept⟩ := plan_granted made
  rw [pages_calls] at kept
  obtain ⟨bound, nextBound⟩ := lookup_granted_pages suffix (pages first second).testCalls differ
  exact ⟨planned, made, kept _ _ bound, kept _ _ nextBound⟩

theorem x_ne_hintBefore (front : String) : "x" ≠ hintBefore front := by
  intro equal
  have lengths := congrArg String.length equal
  have letter : "x".length = 1 := rfl
  rw [length_hintBefore, letter] at lengths
  omega

/-- Runs with suffixes of which one ends in the other issue an identifier in common over a quiz
whose titles ask for it. -/
theorem runs_share_of_isTailOf (named : sanitize first ≠ "") (otherNamed : sanitize second ≠ "")
    (isTail : IsTailOf (sanitize first) (sanitize second)) :
    ∃ quiz identifier,
      (planningLeaves ⟨false, first, false⟩ quiz []).contains identifier = true ∧
      (planningLeaves ⟨false, second, false⟩ quiz []).contains identifier = true := by
  obtain ⟨front, parts, whole⟩ := isTail
  have sanitized := isSanitized_hintBefore (isSanitized_sanitize otherNamed) named parts whole
  have base : (page 0 (hintBefore front)).base = hintBefore front := baseFor_hintBefore sanitized _
  have letter : (page 1 "x").base = "x" := baseFor_x _
  have differ : (page 1 "x").base ≠ (page 0 (hintBefore front)).base := by
    rw [letter, base]
    exact x_ne_hintBefore front
  obtain ⟨planned, made, bound, _⟩ := pages_planned first differ
  obtain ⟨other, otherMade, _, shared⟩ := pages_planned second differ
  rw [base, Registry.identifier_empty named] at bound
  rw [letter, Registry.identifier_empty otherNamed] at shared
  have issued := (plan_ok made).sound.lookup_issued bound
  have again := (plan_ok otherMade).sound.lookup_issued shared
  rw [← planningLeaves_of_ok made, hintBefore_completed parts] at issued
  rw [← planningLeaves_of_ok otherMade] at again
  exact ⟨_, _, issued, again⟩

/-- Registries with different suffixes issue no identifier in common, whatever is asked of them,
exactly if the suffixes part. The same holds of the runs over one quiz. -/
theorem runs_issue_no_common_identifier_iff (named : sanitize first ≠ "")
    (otherNamed : sanitize second ≠ "") (differ : sanitize first ≠ sanitize second) :
    ((∀ strict otherStrict requests others,
        ((Registry.empty first strict).serve requests).2.ApartFrom
          ((Registry.empty second otherStrict).serve others).2) ↔
      SuffixesPart (sanitize first) (sanitize second)) ∧
    ((∀ (options otherOptions : Options) (quiz : Quiz) (assets : AssetMap),
        (planningLeaves { options with suffix := first } quiz assets).ApartFrom
          (planningLeaves { otherOptions with suffix := second } quiz assets)) ↔
      SuffixesPart (sanitize first) (sanitize second)) := by
  refine ⟨⟨fun apart => ⟨fun isTail => ?_, fun isTail => ?_⟩, fun part => ?_⟩,
    ⟨fun apart => ⟨fun isTail => ?_, fun isTail => ?_⟩, fun part => ?_⟩⟩
  · obtain ⟨request, other, identifier, issued, again⟩ :=
      calls_share_of_isTailOf named otherNamed isTail false false
    exact (apart false false [request] [other]).not_shared issued again
  · obtain ⟨request, other, identifier, issued, again⟩ :=
      calls_share_of_isTailOf otherNamed named isTail false false
    exact (apart false false [other] [request]).not_shared again issued
  · intro strict otherStrict requests others
    exact Registry.Reaches.apartFrom named otherNamed differ (Registry.serve_reaches _ requests)
      (Registry.serve_reaches _ others) part
  · obtain ⟨quiz, identifier, issued, again⟩ := runs_share_of_isTailOf named otherNamed isTail
    exact (apart ⟨false, first, false⟩ ⟨false, second, false⟩ quiz []).not_shared issued again
  · obtain ⟨quiz, identifier, issued, again⟩ := runs_share_of_isTailOf otherNamed named isTail
    exact (apart ⟨false, first, false⟩ ⟨false, second, false⟩ quiz []).not_shared again issued
  · intro options otherOptions quiz assets
    exact Registry.Reaches.apartFrom named otherNamed differ
      (buildAll_within quiz assets options.shuffle _)
      (buildAll_within quiz assets otherOptions.shuffle _) part

/-- Two tokens of one length keep all registries and all runs apart. -/
theorem tokens_issue_no_common_identifier :
    sanitize "1a2b3c4d" ≠ "" ∧ sanitize "5e6f7a8b" ≠ "" ∧
      sanitize "1a2b3c4d" ≠ sanitize "5e6f7a8b" ∧
      (∀ requests others, ((Registry.empty "1a2b3c4d" false).serve requests).2.ApartFrom
        ((Registry.empty "5e6f7a8b" false).serve others).2) ∧
      ∀ quiz assets, (planningLeaves ⟨false, "1a2b3c4d", false⟩ quiz assets).ApartFrom
        (planningLeaves ⟨false, "5e6f7a8b", false⟩ quiz assets) := by
  have named : sanitize "1a2b3c4d" ≠ "" := by decide +kernel
  have otherNamed : sanitize "5e6f7a8b" ≠ "" := by decide +kernel
  have differ : sanitize "1a2b3c4d" ≠ sanitize "5e6f7a8b" := by decide +kernel
  have part : SuffixesPart (sanitize "1a2b3c4d") (sanitize "5e6f7a8b") :=
    suffixesPart_of_length_eq (by decide +kernel)
  obtain ⟨calls, runs⟩ := runs_issue_no_common_identifier_iff named otherNamed differ
  exact ⟨named, otherNamed, differ, fun requests others => calls.mpr part false false _ _,
    fun quiz assets =>
      runs.mpr part ⟨false, "1a2b3c4d", false⟩ ⟨false, "5e6f7a8b", false⟩ quiz assets⟩

/-- Run with the suffixes `term` and `winter_term`, one quiz gives both packages an item of the same
name. -/
theorem winter_term_shares_with_term :
    sanitize "term" = "term" ∧ sanitize "winter_term" = "winter_term" ∧
      ∃ planned other,
        plan ⟨false, "term", false⟩ (pages "Exam winter" "Exam") [] = .ok planned ∧
        plan ⟨false, "winter_term", false⟩ (pages "Exam winter" "Exam") [] = .ok other ∧
        planned.registry.contains ⟨"exam_winter_term"⟩ = true ∧
        other.registry.contains ⟨"exam_winter_term"⟩ = true := by
  have computed : (plan ⟨false, "term", false⟩ (pages "Exam winter" "Exam") []).toOption.map
      (fun planned => planned.registry.contains ⟨"exam_winter_term"⟩) = some true := by
    decide +kernel
  have otherComputed :
      (plan ⟨false, "winter_term", false⟩ (pages "Exam winter" "Exam") []).toOption.map
        (fun planned => planned.registry.contains ⟨"exam_winter_term"⟩) = some true := by
    decide +kernel
  obtain ⟨planned, made, issued⟩ := plan_observed _ computed
  obtain ⟨other, otherMade, again⟩ := plan_observed _ otherComputed
  exact ⟨by decide +kernel, by decide +kernel, planned, other, made, otherMade, issued, again⟩

end QuizPackage
