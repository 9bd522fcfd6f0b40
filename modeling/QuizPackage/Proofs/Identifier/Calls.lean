import QuizPackage.Proofs.Identifier.Steps

/-!
# Calls for identifiers

Which identifiers a step asks for does not depend on those that it is given. So its calls alone
tell what it leaves in a registry, and which of them strictness refuses: the first one for a titled
entity whose base is taken.
-/

namespace QuizPackage

/-- A call for the identifier of an entity. -/
structure Call where
  entity : Entity
  kind : IdentifierKind
  hint : Option String

def Call.base (call : Call) : String :=
  baseFor call.kind call.hint

/-- An entity of a quiz entry with the title that its identifier is made of. -/
structure Titled where
  entity : Entity
  location : Location
  kind : IdentifierKind
  title : String
deriving DecidableEq

def Titled.base (titled : Titled) : String :=
  baseFor titled.kind (some titled.title)

/-- What strictness reports when the base of a title is taken. -/
def Titled.problem (titled : Titled) : Problem :=
  .duplicateHint titled.location titled.kind titled.title

/-- An entity with its title, if it comes from a quiz entry and something is left of the title. -/
def Entity.titled? (entity : Entity) (kind : IdentifierKind) (hint : Option String) :
    Option Titled :=
  match hint, entity.location? with
  | some title, some location =>
      if sanitize title = "" then none else some ⟨entity, location, kind, title⟩
  | _, _ => none

def Call.titled? (call : Call) : Option Titled :=
  call.entity.titled? call.kind call.hint

def Problem.IsDuplicateHint : Problem → Prop
  | .duplicateHint _ _ _ => True
  | .invalidQuestion _ _ | .invalidGroup _ _ _ | .integrity _ => False

/-- What a call returns when it is not refused, and the registry after it. -/
def Registry.grant (registry : Registry) (call : Call) : Identifier × Registry :=
  match registry.lookup call.entity with
  | some identifier => (identifier, registry)
  | none =>
      let (identifier, issued) := registry.issue call.kind call.hint
      (identifier, { issued with bound := (call.entity, identifier) :: issued.bound })

/-- The registry after calls none of which is refused. -/
def Registry.granted (registry : Registry) (calls : List Call) : Registry :=
  calls.foldl (fun registry call => (registry.grant call).2) registry

/-- Why strictness refuses a call, if it does. -/
def Registry.refused? (registry : Registry) (call : Call) : Option Problem :=
  if (registry.lookup call.entity).isNone && registry.bases.contains call.base then
    call.titled?.map Titled.problem
  else
    none

/-- Why strictness refuses the first call that it refuses. -/
def Registry.firstRefusal (registry : Registry) : List Call → Option Problem
  | [] => none
  | call :: rest => (registry.refused? call).or ((registry.grant call).2.firstRefusal rest)

/-- A registry made strict. -/
def Registry.strictly (registry : Registry) : Registry :=
  { registry with strict := true }

/-- A registry without its variables, and not strict: what the answers to calls depend on. -/
def Registry.core (registry : Registry) : Registry :=
  { registry with strict := false, owned := [] }

variable {α β : Type} {registry after final : Registry} {call : Call} {calls more : List Call}
  {titled : Titled} {problem : Problem} {entity : Entity} {identifier : Identifier}

theorem Entity.titled?_eq_some {kind : IdentifierKind} {hint : Option String} :
    entity.titled? kind hint = some titled ↔
      ∃ location title, hint = some title ∧ entity.location? = some location ∧
        sanitize title ≠ "" ∧ titled = ⟨entity, location, kind, title⟩ := by
  unfold Entity.titled?
  constructor
  · intro found
    split at found
    · rename_i title location held
      split at found
      · cases found
      · rename_i left
        exact ⟨location, title, rfl, held, left, (Option.some.inj found).symm⟩
    · cases found
  · rintro ⟨location, title, rfl, held, left, rfl⟩
    simp [held, left]

theorem Call.titled_entity (found : call.titled? = some titled) : titled.entity = call.entity := by
  obtain ⟨location, title, _, _, _, rfl⟩ := Entity.titled?_eq_some.mp found
  rfl

theorem Call.titled_base (found : call.titled? = some titled) : titled.base = call.base := by
  obtain ⟨location, title, hint, _, _, rfl⟩ := Entity.titled?_eq_some.mp found
  rw [Call.base, hint]
  rfl

theorem Registry.granted_append (registry : Registry) (calls more : List Call) :
    registry.granted (calls ++ more) = (registry.granted calls).granted more :=
  List.foldl_append

theorem Registry.grant_core (registry : Registry) (call : Call) :
    (registry.core.grant call) = ((registry.grant call).1, (registry.grant call).2.core) := by
  unfold Registry.grant
  change (match registry.lookup call.entity with
    | some identifier => _
    | none => _) = _
  cases registry.lookup call.entity <;> rfl

theorem Registry.grant_suffix (registry : Registry) (call : Call) :
    (registry.grant call).2.suffix = registry.suffix := by
  unfold Registry.grant
  cases registry.lookup call.entity <;> rfl

theorem Registry.grant_strict (registry : Registry) (call : Call) :
    (registry.grant call).2.strict = registry.strict := by
  unfold Registry.grant
  cases registry.lookup call.entity <;> rfl

theorem Registry.grant_of_bound (bound : registry.lookup call.entity = some identifier) :
    registry.grant call = (identifier, registry) := by
  simp [Registry.grant, bound]

theorem Registry.grant_of_unbound (unbound : registry.lookup call.entity = none) :
    registry.grant call =
      (registry.identifier (registry.nextBase call.kind call.hint),
        { registry with
          bases := registry.nextBase call.kind call.hint :: registry.bases
          issued := (registry.identifier (registry.nextBase call.kind call.hint), call.kind) ::
            registry.issued
          bound := (call.entity, registry.identifier (registry.nextBase call.kind call.hint)) ::
            registry.bound }) := by
  rw [Registry.grant, unbound]
  rfl

theorem Registry.lookup_grant (registry : Registry) (call : Call) :
    (registry.grant call).2.lookup call.entity = some (registry.grant call).1 := by
  cases known : registry.lookup call.entity with
  | some identifier => rwa [Registry.grant_of_bound known]
  | none =>
      rw [Registry.grant_of_unbound known]
      exact List.lookup_cons_self

theorem Registry.lookup_grant_of_ne (other : call.entity ≠ entity) :
    (registry.grant call).2.lookup entity = registry.lookup entity := by
  cases known : registry.lookup call.entity with
  | some identifier => rw [Registry.grant_of_bound known]
  | none =>
      rw [Registry.grant_of_unbound known, Registry.lookup, List.lookup_cons,
        beq_eq_false_iff_ne.mpr other.symm]
      rfl

theorem Registry.lookup_granted (bound : registry.lookup entity = some identifier)
    (calls : List Call) : (registry.granted calls).lookup entity = some identifier := by
  induction calls generalizing registry with
  | nil => exact bound
  | cons call rest ih =>
      refine ih ?_
      change (registry.grant call).2.lookup entity = some identifier
      by_cases same : call.entity = entity
      · subst same
        rwa [Registry.grant_of_bound bound]
      · rw [Registry.lookup_grant_of_ne same, bound]

theorem Registry.granted_core (registry : Registry) (calls : List Call) :
    registry.core.granted calls = (registry.granted calls).core := by
  induction calls generalizing registry with
  | nil => rfl
  | cons call rest ih =>
      change (registry.core.grant call).2.granted rest = _
      rw [Registry.grant_core]
      exact ih _

theorem Registry.granted_suffix (registry : Registry) (calls : List Call) :
    (registry.granted calls).suffix = registry.suffix := by
  induction calls generalizing registry with
  | nil => rfl
  | cons call rest ih => exact (ih _).trans (registry.grant_suffix call)

theorem Registry.refused?_core (registry : Registry) (call : Call) :
    registry.core.refused? call = registry.refused? call := rfl

theorem Registry.firstRefusal_core (registry : Registry) (calls : List Call) :
    registry.core.firstRefusal calls = registry.firstRefusal calls := by
  induction calls generalizing registry with
  | nil => rfl
  | cons call rest ih =>
      rw [Registry.firstRefusal, Registry.firstRefusal, Registry.grant_core, ih,
        Registry.refused?_core]

theorem Registry.firstRefusal_append (registry : Registry) (calls more : List Call) :
    registry.firstRefusal (calls ++ more) =
      (registry.firstRefusal calls).or ((registry.granted calls).firstRefusal more) := by
  induction calls generalizing registry with
  | nil => rfl
  | cons call rest ih =>
      rw [List.cons_append, Registry.firstRefusal, Registry.firstRefusal, ih]
      cases registry.refused? call <;> rfl

/-- Without strictness, no call is refused. -/
theorem issueFor_eq_grant (lenient : registry.strict = false) (call : Call) :
    issueFor call.entity call.kind call.hint registry =
      .ok (registry.grant call).1 (registry.grant call).2 := by
  rcases issueFor_cases call.entity call.kind call.hint registry with
    ⟨identifier, known, result⟩ | ⟨_, _, _, refused, _⟩ | ⟨unbound, _, result⟩
  · rw [result, Registry.grant_of_bound known]
  · unfold Registry.refusal? at refused
    split at refused
    · simp [lenient] at refused
    · cases refused
  · rw [result, Registry.grant_of_unbound unbound, Registry.issue_eq]

theorem Registry.refused?_of_bound (bound : registry.lookup call.entity = some identifier) :
    registry.refused? call = none := by
  simp [Registry.refused?, bound]

theorem Registry.refusal?_strictly (unbound : registry.lookup call.entity = none) :
    (registry.strictly.refusal? call.entity call.kind call.hint).map
        (fun (location, hint) => .duplicateHint location call.kind hint) =
      registry.refused? call := by
  simp only [Registry.refused?, unbound, Option.isNone_none, Bool.true_and, Call.titled?]
  unfold Registry.refusal? Entity.titled?
  obtain ⟨entity, kind, hint⟩ := call
  cases hint with
  | none => simp
  | some title =>
      cases entity.location? with
      | none => simp
      | some location =>
          by_cases left : sanitize title = ""
          · simp [left]
          · by_cases taken : registry.bases.contains (baseFor kind (some title)) <;>
              simp_all [Call.base, Registry.strictly, Titled.problem]

/-- A strict registry refuses a call, or answers it as one that is not strict does. -/
theorem issueFor_strictly (registry : Registry) (call : Call) :
    issueFor call.entity call.kind call.hint registry.strictly =
      match registry.refused? call with
      | some problem => .error problem registry.strictly
      | none => .ok (registry.grant call).1 (registry.grant call).2.strictly := by
  rcases issueFor_cases call.entity call.kind call.hint registry.strictly with
    ⟨identifier, known, result⟩ | ⟨unbound, location, hint, refused, result⟩ |
    ⟨unbound, fine, result⟩
  · have known : registry.lookup call.entity = some identifier := known
    rw [result, Registry.refused?_of_bound known, Registry.grant_of_bound known]
  · have unbound : registry.lookup call.entity = none := unbound
    rw [result, ← Registry.refusal?_strictly unbound, refused]
    rfl
  · have unbound : registry.lookup call.entity = none := unbound
    rw [result, ← Registry.refusal?_strictly unbound, fine, Registry.grant_of_unbound unbound,
      Registry.issue_eq]
    rfl

/-- The identifier bound to an entity, if there is one. -/
def lookUp (entity : Entity) : Issuing (Option Identifier) := fun registry =>
  .ok (registry.lookup entity) registry

/-- The calls that a step makes if nothing stops it. They do not depend on their answers. -/
inductive Issuing.Asks : {α : Type} → List Call → Issuing α → Prop
  | pure {α : Type} (value : α) : Asks [] (pure value : Issuing α)
  | stop {α : Type} {problem : Problem} (calls : List Call) (other : ¬problem.IsDuplicateHint) :
      Asks calls (Issuing.stop problem : Issuing α)
  | issueFor (call : Call) : Asks [call] (issueFor call.entity call.kind call.hint)
  | issueVariable (owner : Identifier) (name : String) : Asks [] (issueVariable owner name)
  | lookUp (entity : Entity) : Asks [] (lookUp entity)
  | bind {α β : Type} {calls more : List Call} {step : Issuing α} {next : α → Issuing β}
      (first : Asks calls step) (second : ∀ value, Asks more (next value)) :
      Asks (calls ++ more) (step >>= next)

theorem Issuing.Asks.map {step : Issuing α} (convert : α → β) (asks : step.Asks calls) :
    (convert <$> step).Asks calls := by
  rw [map_eq_pure_bind, ← List.append_nil calls]
  exact asks.bind fun value => .pure _

theorem Issuing.Asks.mapM {step : α → Issuing β} {values : List α} {made : α → List Call}
    (asks : ∀ value, (step value).Asks (made value)) :
    (values.mapM step).Asks (values.flatMap made) := by
  induction values with
  | nil => exact .pure []
  | cons value rest ih =>
      rw [List.mapM_cons, List.flatMap_cons]
      exact (asks value).bind fun result => ih.map (result :: ·)

/-- A step that is not refused grants all its calls. -/
theorem Issuing.Asks.ok {step : Issuing α} {value : α} (asks : step.Asks calls)
    (lenient : registry.strict = false) (ran : step registry = .ok value after) :
    after.strict = false ∧ after.core = registry.core.granted calls := by
  induction asks generalizing registry after with
  | pure | lookUp =>
      cases ran
      exact ⟨lenient, rfl⟩
  | stop => cases ran
  | issueFor call =>
      rw [issueFor_eq_grant lenient] at ran
      cases ran
      exact ⟨(registry.grant_strict call).trans lenient,
        (congrArg Prod.snd (registry.grant_core call)).symm⟩
  | issueVariable owner name =>
      cases ran
      exact ⟨lenient, rfl⟩
  | bind first second ih next =>
      obtain ⟨value, middle, one, two⟩ := Issuing.bind_ok.mp ran
      obtain ⟨still, early⟩ := ih lenient one
      obtain ⟨last, late⟩ := next value still two
      exact ⟨last, by rw [late, early, Registry.granted_append]⟩

/-- Without strictness, no step is stopped by a hint. -/
theorem Issuing.Asks.not_isDuplicateHint {step : Issuing α} (asks : step.Asks calls)
    (lenient : registry.strict = false) (failed : step.verdict registry = some problem) :
    ¬problem.IsDuplicateHint := by
  induction asks generalizing registry with
  | pure | lookUp | issueVariable => cases failed
  | stop calls other =>
      cases failed
      exact other
  | issueFor call =>
      rw [Issuing.verdict, issueFor_eq_grant lenient] at failed
      cases failed
  | @bind _ _ _ _ step _ first _ ih next =>
      rw [Issuing.verdict_bind] at failed
      cases one : step registry with
      | error early middle =>
          rw [one] at failed
          cases failed
          exact ih lenient (Issuing.verdict_eq_some.mpr ⟨middle, one⟩)
      | ok value middle =>
          rw [one] at failed
          exact next value (first.ok lenient one).1 failed

end QuizPackage
