import QuizPackage.Proofs.Package.Calls
import QuizPackage.Proofs.Package.Plan
import QuizPackage.Proofs.Package.Words

/-!
# Strict plans

A strict plan is the same as one that is not strict, or it fails at the first titled part of the
quiz whose identifier would get a number. It is not only titles that take the bases of titles:
everything that identifiers are issued for does.
-/

namespace QuizPackage

variable {quiz : Quiz} {assets : AssetMap} {options : Options} {planned : Plan} {problem : Problem}
  {registry : Registry} {shuffle strict : Bool} {suffix : String}

theorem buildAll_same (lenient : registry.strict = false)
    (accepted : registry.firstRefusal quiz.calls = none) :
    (buildAll quiz assets shuffle).Same registry := by
  have first := buildDocuments_asks quiz shuffle
  rw [buildAll_eq]
  refine (first.same lenient accepted).bind fun documents after ran => ?_
  exact ((buildManifest_asks quiz documents.2 documents.1 assets).map _).same
    (first.ok lenient ran).1 (Registry.firstRefusal_of_untitled (quiz.manifestCalls_untitled _))

theorem buildAll_refused (lenient : registry.strict = false)
    (found : registry.firstRefusal quiz.calls = some problem) :
    (buildAll quiz assets shuffle).Refused registry problem := by
  rw [buildAll_eq]
  exact ((buildDocuments_asks quiz shuffle).refused lenient found).bind _

theorem buildAll_not_isDuplicateHint (lenient : registry.strict = false)
    (failed : (buildAll quiz assets shuffle).verdict registry = some problem) :
    ¬problem.IsDuplicateHint := by
  have first := buildDocuments_asks quiz shuffle
  rw [buildAll_eq, Issuing.verdict_bind] at failed
  cases ran : buildDocuments quiz shuffle registry with
  | error reason middle =>
      rw [ran] at failed
      exact first.not_isDuplicateHint lenient
        ((Issuing.verdict_eq_some.mpr ⟨middle, ran⟩).trans failed)
  | ok documents middle =>
      rw [ran] at failed
      dsimp only at failed
      rw [Issuing.verdict_map] at failed
      exact (buildManifest_asks quiz documents.2 documents.1 assets).not_isDuplicateHint
        (first.ok lenient ran).1 failed

/-- Where no title is refused, a strict plan is the same as one that is not strict. -/
theorem plan_strict_of_accepted
    (accepted : (Registry.empty suffix false).firstRefusal quiz.calls = none) :
    plan ⟨true, suffix, shuffle⟩ quiz assets =
      (plan ⟨false, suffix, shuffle⟩ quiz assets).map fun planned =>
        { planned with registry := planned.registry.strictly } := by
  have same : (buildAll quiz assets shuffle).Same (Registry.empty suffix false) :=
    buildAll_same rfl accepted
  have strict : Registry.empty suffix true = (Registry.empty suffix false).strictly := rfl
  unfold plan
  dsimp only
  rw [strict, same]
  cases buildAll quiz assets shuffle (Registry.empty suffix false) <;> rfl

theorem plan_strict_of_refused
    (found : (Registry.empty suffix false).firstRefusal quiz.calls = some problem) :
    plan ⟨true, suffix, shuffle⟩ quiz assets = .error problem ∨
      ∃ other, plan ⟨false, suffix, shuffle⟩ quiz assets = .error other ∧
        plan ⟨true, suffix, shuffle⟩ quiz assets = .error other := by
  have refused : (buildAll quiz assets shuffle).Refused (Registry.empty suffix false) problem :=
    buildAll_refused rfl found
  simp only [plan_error_iff]
  rcases refused with refused | ⟨failed, same⟩
  · exact .inl refused
  · obtain ⟨other, failed⟩ := Option.ne_none_iff_exists'.mp failed
    exact .inr ⟨other, failed, same.trans failed⟩

/-- A plan that is not strict grants all calls for its items and its test. -/
theorem plan_granted (made : plan ⟨false, suffix, shuffle⟩ quiz assets = .ok planned) :
    planned.registry.suffix = (Registry.empty suffix false).suffix ∧
      planned.registry.strict = false ∧
      ∀ entity identifier,
        ((Registry.empty suffix false).granted quiz.calls).lookup entity = some identifier →
        planned.registry.lookup entity = some identifier := by
  obtain ⟨first, second, items, test, manifest⟩ := plan_stages made
  have documents : buildDocuments quiz shuffle (Registry.empty suffix false) =
      .ok (planned.items, planned.test) second :=
    Issuing.bind_ok.mpr ⟨_, _, items, Issuing.bind_ok.mpr ⟨_, _, test, rfl⟩⟩
  obtain ⟨lenient, granted⟩ := (buildDocuments_asks quiz shuffle).ok rfl documents
  rw [Registry.granted_core] at granted
  have reaches := (buildManifest_within quiz planned.test planned.items assets).reaches manifest
  refine ⟨?_, reaches.grows.strict.trans lenient, fun entity identifier bound => ?_⟩
  · have same := congrArg Registry.suffix granted
    exact (reaches.grows.suffix.trans same).trans (Registry.granted_suffix _ _)
  · refine reaches.lookup_eq_some ?_
    change second.core.lookup entity = some identifier
    rwa [granted]

theorem exists_first_lost {titles : List Titled}
    (lost : ∃ titled ∈ titles, ¬titled.KeptIn registry) :
    ∃ front titled back, titles = front ++ titled :: back ∧ ¬titled.KeptIn registry ∧
      ∀ earlier ∈ front, earlier.KeptIn registry := by
  obtain ⟨titled, member, missing⟩ := lost
  have some : (titles.find? fun titled => !titled.KeptIn registry).isSome :=
    List.find?_isSome.mpr ⟨titled, member, by simp [missing]⟩
  obtain ⟨first, found⟩ := Option.isSome_iff_exists.mp some
  obtain ⟨gone, front, back, place, kept⟩ := List.find?_eq_some_iff_append.mp found
  exact ⟨front, first, back, place, by simpa using gone,
    fun earlier inside => by simpa using kept earlier inside⟩

/-- Strictness refuses the first title that a plan which is not strict does not keep. -/
theorem firstRefusal_eq_first_lost
    (made : plan ⟨false, suffix, shuffle⟩ quiz assets = .ok planned) :
    (Registry.empty suffix false).firstRefusal quiz.calls =
      (quiz.titled.find? fun titled => !titled.KeptIn planned.registry).map Titled.problem := by
  obtain ⟨sameSuffix, _, kept⟩ := plan_granted made
  rw [Registry.firstRefusal_eq_find? (fun _ _ _ => rfl) quiz.calls_apart sameSuffix kept,
    quiz.calls_titled]

theorem plan_lenient_of_strict (made : plan ⟨true, suffix, shuffle⟩ quiz assets = .ok planned) :
    plan ⟨false, suffix, shuffle⟩ quiz assets =
      .ok { planned with registry := { planned.registry with strict := false } } := by
  cases found : (Registry.empty suffix false).firstRefusal quiz.calls with
  | some problem =>
      rcases plan_strict_of_refused found with failed | ⟨_, _, failed⟩
      · cases made.symm.trans failed
      · cases made.symm.trans failed
  | none =>
      rw [plan_strict_of_accepted found] at made
      cases lenient : plan ⟨false, suffix, shuffle⟩ quiz assets with
      | error problem =>
          rw [lenient] at made
          cases made
      | ok original =>
          rw [lenient] at made
          cases made
          obtain ⟨_, still, _⟩ := plan_granted lenient
          dsimp only
          rw [Registry.strict_undone still]

theorem plan_strict_of_kept (made : plan ⟨false, suffix, shuffle⟩ quiz assets = .ok planned)
    (kept : ∀ titled ∈ quiz.titled, titled.KeptIn planned.registry) :
    ∃ strictly, plan ⟨true, suffix, shuffle⟩ quiz assets = .ok strictly := by
  have none : quiz.titled.find? (fun titled => !titled.KeptIn planned.registry) = none :=
    List.find?_eq_none.mpr fun titled member => by simp [kept titled member]
  have accepted := firstRefusal_eq_first_lost made
  rw [none] at accepted
  rw [plan_strict_of_accepted accepted, made]
  exact ⟨_, rfl⟩

theorem plan_strict_of_lost {front back : List Titled} {titled : Titled}
    (made : plan ⟨false, suffix, shuffle⟩ quiz assets = .ok planned)
    (place : quiz.titled = front ++ titled :: back)
    (kept : ∀ earlier ∈ front, earlier.KeptIn planned.registry)
    (lost : ¬titled.KeptIn planned.registry) :
    plan ⟨true, suffix, shuffle⟩ quiz assets = .error titled.problem := by
  have skipped : front.find? (fun titled => !titled.KeptIn planned.registry) = none :=
    List.find?_eq_none.mpr fun earlier member => by simp [kept earlier member]
  have found := firstRefusal_eq_first_lost made
  rw [place, List.find?_append, skipped, Option.none_or, List.find?_cons_of_pos (by simp [lost])]
    at found
  refine (plan_strict_of_refused found).resolve_right fun ⟨other, failed, _⟩ => ?_
  cases made.symm.trans failed

/-- If a strict plan succeeds, it is the same without strictness. If a plan that is not strict
succeeds, it succeeds with strictness exactly if every titled part of the quiz keeps the identifier
of its title. Otherwise the first that does not is reported. -/
theorem strict_plan_refuses_first_lost_title (suffix : String) (shuffle : Bool) (quiz : Quiz)
    (assets : AssetMap) :
    (∀ planned, plan ⟨true, suffix, shuffle⟩ quiz assets = .ok planned →
      plan ⟨false, suffix, shuffle⟩ quiz assets =
        .ok { planned with registry := { planned.registry with strict := false } }) ∧
    ∀ planned, plan ⟨false, suffix, shuffle⟩ quiz assets = .ok planned →
      ((∃ strictly, plan ⟨true, suffix, shuffle⟩ quiz assets = .ok strictly) ↔
        ∀ titled ∈ quiz.titled, titled.KeptIn planned.registry) ∧
      ∀ front titled back, quiz.titled = front ++ titled :: back →
        (∀ earlier ∈ front, earlier.KeptIn planned.registry) → ¬titled.KeptIn planned.registry →
        plan ⟨true, suffix, shuffle⟩ quiz assets =
          .error (.duplicateHint titled.location titled.kind titled.title) := by
  refine ⟨fun planned made => plan_lenient_of_strict made, fun planned made => ⟨⟨?_, ?_⟩, ?_⟩⟩
  · rintro ⟨strictly, ran⟩ titled member
    by_contra lost
    obtain ⟨front, first, back, place, missing, kept⟩ :=
      exists_first_lost ⟨titled, member, lost⟩
    cases ran.symm.trans (plan_strict_of_lost made place kept missing)
  · exact plan_strict_of_kept made
  · intro front titled back place kept lost
    exact plan_strict_of_lost made place kept lost

theorem detour_refused_at_second_map :
    ∃ planned, plan ⟨false, "", false⟩ detour [] = .ok planned ∧
      planned.registry.lookup (.text 0) = some ⟨"map"⟩ ∧
      planned.registry.lookup (.text 1) = some ⟨"map_2"⟩ ∧
      plan ⟨true, "", false⟩ detour [] = .error (.duplicateHint (.top 1) .textItem "Map") := by
  have computed : (plan ⟨false, "", false⟩ detour []).toOption.map (fun planned =>
      (planned.registry.lookup (.text 0), planned.registry.lookup (.text 1),
        detour.titled.map fun titled => decide (titled.KeptIn planned.registry))) =
      some (some ⟨"map"⟩, some ⟨"map_2"⟩, [true, false]) := by
    decide +kernel
  obtain ⟨planned, made, seen⟩ := plan_observed _ computed
  obtain ⟨first, rest⟩ := Prod.mk.inj seen
  obtain ⟨second, kept⟩ := Prod.mk.inj rest
  have titles : detour.titled =
      [⟨.text 0, .top 0, .textItem, "Map"⟩, ⟨.text 1, .top 1, .textItem, "Map"⟩] := by
    decide +kernel
  rw [titles] at kept
  simp only [List.map_cons, List.map_nil, List.cons.injEq, decide_eq_true_eq,
    decide_eq_false_iff_not, and_true] at kept
  obtain ⟨_, shown⟩ := strict_plan_refuses_first_lost_title "" false detour []
  obtain ⟨_, refused⟩ := shown planned made
  refine ⟨planned, made, first, second, ?_⟩
  exact refused [_] _ [] titles (by simpa using kept.1) kept.2

theorem firstRefusal_of_duplicateHint {location : Location} {kind : IdentifierKind} {title : String}
    (refused : plan options quiz assets = .error (.duplicateHint location kind title)) :
    (Registry.empty options.suffix false).firstRefusal quiz.calls =
      some (.duplicateHint location kind title) := by
  obtain ⟨strict, suffix, shuffle⟩ := options
  have stays : plan ⟨false, suffix, shuffle⟩ quiz assets ≠
      .error (.duplicateHint location kind title) := fun failed =>
    buildAll_not_isDuplicateHint rfl (plan_error_iff.mp failed) trivial
  cases strict with
  | false => exact (stays refused).elim
  | true =>
      cases found : (Registry.empty suffix false).firstRefusal quiz.calls with
      | none =>
          rw [plan_strict_of_accepted found] at refused
          cases made : plan ⟨false, suffix, shuffle⟩ quiz assets with
          | error problem =>
              rw [made] at refused
              cases refused
              exact (stays made).elim
          | ok planned =>
              rw [made] at refused
              cases refused
      | some problem =>
          rcases plan_strict_of_refused found with failed | ⟨other, made, failed⟩
          · cases failed.symm.trans refused
            rfl
          · cases failed.symm.trans refused
            exact (stays made).elim

/-- A title is refused because an identifier before took its base: that of an equal title, or any
that was not made of a title, with or without a number. -/
theorem refused_title_finds_base_taken {location : Location} {kind : IdentifierKind}
    {title : String}
    (refused : plan options quiz assets = .error (.duplicateHint location kind title)) :
    ∃ front call back, quiz.calls = front ++ call :: back ∧
      call.titled? = some ⟨call.entity, location, kind, title⟩ ∧
      ∃ earlier ∈ front, earlier.base = call.base ∨
        earlier.titled? = none ∧ ∃ number, 2 ≤ number ∧
          numbered earlier.base number = call.base := by
  have found := firstRefusal_of_duplicateHint refused
  obtain ⟨front, call, back, titled, place, named, same, taken, accepted⟩ :=
    Registry.firstRefusal_eq_some found
  cases same
  refine ⟨front, call, back, place, by rw [named, ← Call.titled_entity named], ?_⟩
  exact (Registry.mem_bases_granted accepted taken).resolve_left List.not_mem_nil

def crossing : Quiz :=
  { title := "Crossing"
    description := ""
    entries := [
      .question {
        title := none
        prompt := "<p>Which way?</p>"
        points := 1.0
        kind := .singleChoice [.plain "Left" true, .plain "Right" false]
        feedback := ⟨none, none, none⟩
        assets := [] },
      .text ⟨some "Choice", "<p>Go on.</p>", []⟩] }

def refusedTitle? : Except Problem Plan → Option (Location × IdentifierKind × String)
  | .error (.duplicateHint location kind title) => some (location, kind, title)
  | _ => none

theorem refusedTitle?_eq_some {made : Except Problem Plan} {location : Location}
    {kind : IdentifierKind} {title : String} :
    refusedTitle? made = some (location, kind, title) ↔
      made = .error (.duplicateHint location kind title) := by
  unfold refusedTitle?
  split <;> simp_all

theorem crossing_refused :
    plan ⟨true, "", false⟩ crossing [] = .error (.duplicateHint (.top 1) .textItem "Choice") :=
  refusedTitle?_eq_some.mp (by decide +kernel)

/-- The only title of the quiz is refused, because a choice took its base. -/
theorem crossing_refused_without_equal_title :
    plan ⟨true, "", false⟩ crossing [] = .error (.duplicateHint (.top 1) .textItem "Choice") ∧
    crossing.titled = [⟨.text 1, .top 1, .textItem, "Choice"⟩] ∧
    ∃ planned, plan ⟨false, "", false⟩ crossing [] = .ok planned ∧
      planned.registry.lookup (.choice (.top 0) 0) = some ⟨"choice"⟩ ∧
      planned.registry.lookup (.text 1) = some ⟨"choice_3"⟩ := by
  have computed : (plan ⟨false, "", false⟩ crossing []).toOption.map (fun planned =>
      (planned.registry.lookup (.choice (.top 0) 0), planned.registry.lookup (.text 1))) =
      some (some ⟨"choice"⟩, some ⟨"choice_3"⟩) := by
    decide +kernel
  obtain ⟨planned, made, seen⟩ := plan_observed _ computed
  exact ⟨crossing_refused, by decide +kernel, planned, made, Prod.mk.inj seen⟩

theorem crossing_finds_choice_taken :
    ∃ front call back, crossing.calls = front ++ call :: back ∧
      call.titled? = some ⟨call.entity, .top 1, .textItem, "Choice"⟩ ∧
      ∃ earlier ∈ front, earlier.base = call.base ∨
        earlier.titled? = none ∧ ∃ number, 2 ≤ number ∧
          numbered earlier.base number = call.base :=
  refused_title_finds_base_taken crossing_refused

end QuizPackage
