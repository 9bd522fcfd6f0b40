import QuizPackage.Proofs.Identifier.Calls

/-!
# Steps on strict registries

A step fails on a strict registry at the first of its calls that strictness refuses, and otherwise
ends as it does without strictness. Where no titled entity is called for twice, the calls that are
refused can be read off the identifiers that are issued without strictness.
-/

namespace QuizPackage

variable {α β : Type} {registry after final : Registry} {call : Call} {calls more : List Call}
  {titled : Titled} {problem : Problem} {entity : Entity} {identifier : Identifier}
  {base : String}

theorem Registry.strict_undone (lenient : registry.strict = false) :
    { registry.strictly with strict := false } = registry := by
  cases registry
  cases lenient
  rfl

/-- A step ends on a registry as it does on the registry made strict. -/
def Issuing.Same (step : Issuing α) (registry : Registry) : Prop :=
  step registry.strictly =
    match step registry with
    | .ok value after => .ok value after.strictly
    | .error problem after => .error problem after.strictly

theorem Issuing.Same.ok {step : Issuing α} {value : α} (same : step.Same registry)
    (ran : step registry = .ok value after) :
    step registry.strictly = .ok value after.strictly := by
  rw [same, ran]

theorem Issuing.Same.error {step : Issuing α} (same : step.Same registry)
    (failed : step registry = .error problem after) :
    step registry.strictly = .error problem after.strictly := by
  rw [same, failed]

theorem Issuing.Same.bind {step : Issuing α} {next : α → Issuing β} (first : step.Same registry)
    (second : ∀ value after, step registry = .ok value after → (next value).Same after) :
    (step >>= next).Same registry := by
  change EStateM.bind step next registry.strictly = match EStateM.bind step next registry with
    | .ok value after => .ok value after.strictly
    | .error problem after => .error problem after.strictly
  unfold EStateM.bind
  cases ran : step registry with
  | ok value middle =>
      rw [first.ok ran]
      exact second value middle ran
  | error problem middle => rw [first.error ran]

theorem Issuing.Asks.firstRefusal_append {step : Issuing α} {value : α} (asks : step.Asks calls)
    (lenient : registry.strict = false) (ran : step registry = .ok value after)
    (more : List Call) :
    registry.firstRefusal (calls ++ more) =
      (registry.firstRefusal calls).or (after.firstRefusal more) := by
  rw [Registry.firstRefusal_append, ← Registry.firstRefusal_core after,
    (asks.ok lenient ran).2, Registry.granted_core, Registry.firstRefusal_core]

/-- A step none of whose calls is refused ends as without strictness. -/
theorem Issuing.Asks.same {step : Issuing α} (asks : step.Asks calls)
    (lenient : registry.strict = false) (accepted : registry.firstRefusal calls = none) :
    step.Same registry := by
  induction asks generalizing registry with
  | pure | stop | lookUp | issueVariable => rfl
  | issueFor call =>
      have fine : registry.refused? call = none := by
        simpa [Registry.firstRefusal] using accepted
      rw [Issuing.Same, issueFor_strictly, issueFor_eq_grant lenient, fine]
  | @bind _ _ calls more step _ first second ih next =>
      have early : registry.firstRefusal calls = none := by
        rw [Registry.firstRefusal_append] at accepted
        exact (Option.or_eq_none_iff.mp accepted).1
      refine (ih lenient early).bind fun value after ran => ?_
      rw [first.firstRefusal_append lenient ran, early, Option.none_or] at accepted
      exact next value (first.ok lenient ran).1 accepted

/-- On a strict registry a step fails with a problem, unless it fails for another reason already
without strictness. -/
def Issuing.Refused (step : Issuing α) (registry : Registry) (problem : Problem) : Prop :=
  step.verdict registry.strictly = some problem ∨
    step.verdict registry ≠ none ∧ step.verdict registry.strictly = step.verdict registry

theorem Issuing.Refused.bind {step : Issuing α} (refused : step.Refused registry problem)
    (next : α → Issuing β) : (step >>= next).Refused registry problem := by
  unfold Issuing.Refused
  rw [Issuing.verdict_bind, Issuing.verdict_bind]
  rcases refused with refused | ⟨failed, same⟩
  · obtain ⟨middle, failed⟩ := Issuing.verdict_eq_some.mp refused
    exact .inl (by rw [failed])
  · obtain ⟨reason, failed⟩ := Option.ne_none_iff_exists'.mp failed
    rw [failed] at same
    obtain ⟨middle, failed⟩ := Issuing.verdict_eq_some.mp failed
    obtain ⟨last, strictFailed⟩ := Issuing.verdict_eq_some.mp same
    exact .inr (by simp [failed, strictFailed])

theorem Issuing.Same.refused_bind {step : Issuing α} {next : α → Issuing β}
    (same : step.Same registry) (second : ∀ value after, step registry = .ok value after →
      (next value).Refused after problem) : (step >>= next).Refused registry problem := by
  unfold Issuing.Refused
  rw [Issuing.verdict_bind, Issuing.verdict_bind]
  cases ran : step registry with
  | error reason middle => exact .inr (by simp [same.error ran])
  | ok value middle =>
      rw [same.ok ran]
      exact second value middle ran

/-- A step one of whose calls is refused fails at the first of these, unless it fails before for
another reason. -/
theorem Issuing.Asks.refused {step : Issuing α} (asks : step.Asks calls)
    (lenient : registry.strict = false) (found : registry.firstRefusal calls = some problem) :
    step.Refused registry problem := by
  induction asks generalizing registry with
  | pure | lookUp | issueVariable => cases found
  | stop => exact .inr ⟨by simp [Issuing.verdict, Issuing.stop], rfl⟩
  | issueFor call =>
      have refused : registry.refused? call = some problem := by
        simpa [Registry.firstRefusal] using found
      exact .inl (by rw [Issuing.verdict, issueFor_strictly, refused])
  | @bind _ _ calls more step rest first second ih next =>
      cases early : registry.firstRefusal calls with
      | some refusal =>
          rw [Registry.firstRefusal_append, early, Option.some_or] at found
          exact (ih lenient (early.trans found)).bind rest
      | none =>
          refine (first.same lenient early).refused_bind fun value after ran => ?_
          rw [first.firstRefusal_append lenient ran, early, Option.none_or] at found
          exact next value (first.ok lenient ran).1 found

/-- A titled entity has the identifier that is made of its title alone. -/
def Titled.KeptIn (titled : Titled) (registry : Registry) : Prop :=
  registry.lookup titled.entity = some (registry.identifier titled.base)

instance (titled : Titled) (registry : Registry) : Decidable (titled.KeptIn registry) :=
  inferInstanceAs (Decidable (_ = _))

theorem Registry.refused?_of_untitled (untitled : call.titled? = none) :
    registry.refused? call = none := by
  simp [Registry.refused?, untitled]

theorem Registry.refused?_of_free (free : call.base ∉ registry.bases) :
    registry.refused? call = none := by
  simp [Registry.refused?, free]

theorem Registry.refused?_of_taken (unbound : registry.lookup call.entity = none)
    (taken : call.base ∈ registry.bases) :
    registry.refused? call = call.titled?.map Titled.problem := by
  simp [Registry.refused?, unbound, taken]

theorem Registry.refused?_eq_some (refused : registry.refused? call = some problem) :
    call.base ∈ registry.bases ∧ ∃ titled, call.titled? = some titled ∧
      problem = titled.problem := by
  unfold Registry.refused? at refused
  split at refused
  · rename_i met
    obtain ⟨titled, found, rfl⟩ := Option.map_eq_some_iff.mp refused
    exact ⟨by simpa using (Bool.and_eq_true_iff.mp met).2, titled, found, rfl⟩
  · cases refused

theorem Registry.firstRefusal_of_untitled (untitled : ∀ call ∈ calls, call.titled? = none) :
    registry.firstRefusal calls = none := by
  induction calls generalizing registry with
  | nil => rfl
  | cons call rest ih =>
      rw [Registry.firstRefusal, Registry.refused?_of_untitled (untitled call List.mem_cons_self),
        Option.none_or]
      exact ih fun other member => untitled other (List.mem_cons_of_mem _ member)

/-- The first call that is refused is for a titled entity, and those before it took its base. -/
theorem Registry.firstRefusal_eq_some (found : registry.firstRefusal calls = some problem) :
    ∃ front call back titled, calls = front ++ call :: back ∧ call.titled? = some titled ∧
      problem = titled.problem ∧ call.base ∈ (registry.granted front).bases ∧
      registry.firstRefusal front = none := by
  induction calls generalizing registry with
  | nil => cases found
  | cons call rest ih =>
      rw [Registry.firstRefusal] at found
      cases refused : registry.refused? call with
      | some first =>
          rw [refused, Option.some_or] at found
          cases found
          obtain ⟨taken, titled, known, same⟩ := Registry.refused?_eq_some refused
          exact ⟨[], call, rest, titled, rfl, known, same, taken, rfl⟩
      | none =>
          rw [refused, Option.none_or] at found
          obtain ⟨front, later, back, titled, rfl, known, same, taken, accepted⟩ := ih found
          refine ⟨call :: front, later, back, titled, rfl, known, same, taken, ?_⟩
          rw [Registry.firstRefusal, refused, accepted, Option.none_or]

/-- A call that is not refused takes its base, or a numbered one where no title gives it. -/
theorem Registry.mem_bases_grant (accepted : registry.refused? call = none)
    (taken : base ∈ (registry.grant call).2.bases) :
    base ∈ registry.bases ∨ call.base = base ∨
      call.titled? = none ∧ ∃ number, 2 ≤ number ∧ numbered call.base number = base := by
  cases known : registry.lookup call.entity with
  | some identifier =>
      rw [Registry.grant_of_bound known] at taken
      exact .inl taken
  | none =>
      rw [Registry.grant_of_unbound known] at taken
      rcases List.mem_cons.mp taken with rfl | earlier
      · right
        by_cases used : call.base ∈ registry.bases
        · obtain ⟨number, least, next, _⟩ := firstFree_of_taken used
          rw [Registry.refused?_of_taken known used, Option.map_eq_none_iff] at accepted
          exact .inr ⟨accepted, number, least, next.symm⟩
        · exact .inl (firstFree_of_free used).symm
      · exact .inl earlier

theorem Registry.mem_bases_granted (accepted : registry.firstRefusal calls = none)
    (taken : base ∈ (registry.granted calls).bases) :
    base ∈ registry.bases ∨ ∃ call ∈ calls, call.base = base ∨
      call.titled? = none ∧ ∃ number, 2 ≤ number ∧ numbered call.base number = base := by
  induction calls generalizing registry with
  | nil => exact .inl taken
  | cons call rest ih =>
      obtain ⟨first, others⟩ := Option.or_eq_none_iff.mp accepted
      rcases ih others taken with taken | ⟨later, member, source⟩
      · rcases Registry.mem_bases_grant first taken with earlier | source
        · exact .inl earlier
        · exact .inr ⟨call, List.mem_cons_self, source⟩
      · exact .inr ⟨later, List.mem_cons_of_mem _ member, source⟩

theorem Registry.identifier_congr (suffix : final.suffix = registry.suffix) :
    final.identifier = registry.identifier := by
  funext base
  simp only [Registry.identifier, suffix]

/-- A new identifier is made of its own base exactly if that was free. -/
theorem Registry.grant_own_base_iff (unbound : registry.lookup call.entity = none) :
    (registry.grant call).1 = registry.identifier call.base ↔ call.base ∉ registry.bases := by
  rw [Registry.grant_of_unbound unbound, registry.identifier_injective.eq_iff]
  constructor
  · intro same taken
    exact registry.nextBase_fresh call.kind call.hint (same ▸ taken)
  · intro free
    exact firstFree_of_free free

/-- Where no titled entity is called for twice, the first refusal is of the first one that does not
keep the identifier of its title in the end. -/
theorem Registry.firstRefusal_eq_find?
    (unbound : ∀ call ∈ calls, call.titled?.isSome → registry.lookup call.entity = none)
    (apart : calls.Pairwise fun earlier later => later.titled?.isSome →
      earlier.entity ≠ later.entity)
    (suffix : final.suffix = registry.suffix)
    (kept : ∀ entity identifier, (registry.granted calls).lookup entity = some identifier →
      final.lookup entity = some identifier) :
    registry.firstRefusal calls =
      ((calls.filterMap Call.titled?).find? fun titled => !titled.KeptIn final).map
        Titled.problem := by
  induction calls generalizing registry with
  | nil => rfl
  | cons call rest ih =>
      rw [List.pairwise_cons] at apart
      have unboundRest : ∀ later ∈ rest, later.titled?.isSome →
          (registry.grant call).2.lookup later.entity = none := by
        intro later member isTitled
        rw [Registry.lookup_grant_of_ne (apart.1 later member isTitled)]
        exact unbound later (List.mem_cons_of_mem _ member) isTitled
      have others := ih unboundRest apart.2 (suffix.trans (registry.grant_suffix call).symm) kept
      rw [Registry.firstRefusal, others]
      cases found : call.titled? with
      | none =>
          rw [Registry.refused?_of_untitled found, List.filterMap_cons_none found, Option.none_or]
      | some titled =>
          have fresh := unbound call List.mem_cons_self (by simp [found])
          have bound := kept _ _ (Registry.lookup_granted (registry.lookup_grant call) rest)
          have own : titled.KeptIn final ↔ call.base ∉ registry.bases := by
            rw [Titled.KeptIn, Call.titled_entity found, bound, Option.some.injEq,
              Call.titled_base found, Registry.identifier_congr suffix]
            exact Registry.grant_own_base_iff fresh
          rw [List.filterMap_cons_some found]
          by_cases taken : call.base ∈ registry.bases
          · have lost : decide (titled.KeptIn final) = false := by simpa [own] using taken
            rw [List.find?_cons, lost, Registry.refused?_of_taken fresh taken, found]
            rfl
          · have keeps : decide (titled.KeptIn final) = true := by simpa [own] using taken
            rw [List.find?_cons, keeps, Registry.refused?_of_free taken, Option.none_or]
            rfl

end QuizPackage
