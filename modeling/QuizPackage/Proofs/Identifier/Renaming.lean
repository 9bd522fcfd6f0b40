import QuizPackage.Proofs.Identifier.Calls
import QuizPackage.Proofs.Identifier.Suffix

/-!
# Renamed registries

Registries and problems with other identifiers, and the steps that go the same way on registries
with and without a suffix. What a registry answers depends on its bases and on what is bound, so a
suffix changes the identifiers that a step returns and nothing else.
-/

namespace QuizPackage

/-- A fault with the identifiers that it names renamed. No plan reports a path. -/
def IntegrityFault.rename (naming : Identifier → Identifier) : IntegrityFault → IntegrityFault
  | .choiceCount location choices identifiers => .choiceCount location choices identifiers
  | .improperAssetName name => .improperAssetName name
  | .missingAsset item name => .missingAsset (naming item) name
  | .missingItem entity => .missingItem entity
  | .undeclaredResponse item response => .undeclaredResponse (naming item) (naming response)
  | .undeclaredVariable item name => .undeclaredVariable (naming item) (naming name)
  | .undeclaredOutcome item block => .undeclaredOutcome (naming item) (naming block)
  | .repeatedPath path => .repeatedPath path
  | .notIssued path identifier => .notIssued path (naming identifier)
  | .notWritten path identifier kind => .notWritten path (naming identifier) kind
  | .unresolvedItem test item => .unresolvedItem (naming test) (naming item)
  | .unresolvedResource resource href => .unresolvedResource (naming resource) href
  | .unknownDependency resource dependency =>
      .unknownDependency (naming resource) (naming dependency)
  | .listedOften path times => .listedOften path times
  | .unlisted path => .unlisted path

inductive ProblemKind where
  | invalidQuestion
  | invalidGroup
  | duplicateHint
  | integrity
deriving DecidableEq, Repr

def Problem.kind : Problem → ProblemKind
  | .invalidQuestion _ _ => .invalidQuestion
  | .invalidGroup _ _ _ => .invalidGroup
  | .duplicateHint _ _ _ => .duplicateHint
  | .integrity _ => .integrity

def Problem.rename (naming : Identifier → Identifier) : Problem → Problem
  | .invalidQuestion location fault => .invalidQuestion location fault
  | .invalidGroup location pick members => .invalidGroup location pick members
  | .duplicateHint location kind hint => .duplicateHint location kind hint
  | .integrity fault => .integrity (fault.rename naming)

/-- A registry with another suffix, whose identifiers are renamed. -/
def Registry.rename (naming : Identifier → Identifier) (suffix : String) (registry : Registry) :
    Registry :=
  { registry with
    suffix := suffix
    issued := registry.issued.map (Prod.map naming id)
    bound := registry.bound.map (Prod.map id naming)
    owned := registry.owned.map (Prod.map naming id) }

/-- A registry without a suffix as it is with one. -/
def Registry.suffixed (suffix : String) (registry : Registry) : Registry :=
  registry.rename (Identifier.suffixed suffix) suffix

/-- On a registry without a suffix a step does what another does on the same registry with one: what
it returns is converted, and the identifiers in what it leaves or reports have the suffix. -/
structure Issuing.CarriedTo {α β : Type} (suffix : String) (convert : α → β) (step : Issuing α)
    (image : Issuing β) : Prop where
  ok : ∀ {registry : Registry} {value : α} {after : Registry}, registry.suffix = "" →
    step registry = .ok value after →
    after.suffix = "" ∧
      image (registry.suffixed suffix) = .ok (convert value) (after.suffixed suffix)
  error : ∀ {registry : Registry} {problem : Problem} {after : Registry}, registry.suffix = "" →
    step registry = .error problem after →
    after.suffix = "" ∧ image (registry.suffixed suffix) =
      .error (problem.rename (Identifier.suffixed suffix)) (after.suffixed suffix)

variable {naming first second : Identifier → Identifier} {registry after : Registry}
  {suffix : String} {α β γ δ : Type}

theorem Problem.rename_rename (problem : Problem) :
    (problem.rename first).rename second = problem.rename (second ∘ first) := by
  cases problem with
  | integrity fault => cases fault <;> rfl
  | invalidQuestion | invalidGroup | duplicateHint => rfl

theorem Registry.rename_rename (registry : Registry) (suffix other : String) :
    (registry.rename first other).rename second suffix =
      registry.rename (second ∘ first) suffix := by
  simp [Registry.rename]

theorem Problem.kind_rename (problem : Problem) : (problem.rename naming).kind = problem.kind := by
  cases problem <;> rfl

theorem Problem.location?_rename (problem : Problem) :
    (problem.rename naming).location? = problem.location? := by
  cases problem <;> rfl

theorem Registry.lookup_rename (registry : Registry) (suffix : String) (entity : Entity) :
    (registry.rename naming suffix).lookup entity = (registry.lookup entity).map naming := by
  unfold Registry.lookup Registry.rename
  induction registry.bound with
  | nil => rfl
  | cons entry rest ih =>
      obtain ⟨key, identifier⟩ := entry
      simp only [List.map_cons, Prod.map, id, List.lookup_cons]
      cases entity == key with
      | true => rfl
      | false => exact ih

theorem Registry.refusal?_rename (registry : Registry) (suffix : String) (entity : Entity)
    (kind : IdentifierKind) (hint : Option String) :
    (registry.rename naming suffix).refusal? entity kind hint =
      registry.refusal? entity kind hint := rfl

/-- An injective renaming of owners keeps the variables of each. -/
theorem Registry.variablesOf_rename (injective : Function.Injective naming) (registry : Registry)
    (suffix : String) (owner : Identifier) :
    (registry.rename naming suffix).variablesOf (naming owner) = registry.variablesOf owner := by
  simp [Registry.variablesOf, Registry.rename, List.filter_map, Function.comp_def,
    injective.beq_eq]

theorem Registry.identifier_suffixed (bare : registry.suffix = "") {base : String}
    (shaped : Shaped isBaseChar base) :
    (registry.suffixed suffix).identifier base =
      (registry.identifier base).suffixed suffix := by
  have plain : registry.identifier base = ⟨base⟩ := by simp [Registry.identifier, bare]
  rw [Registry.identifier_eq_suffixed _ shaped, plain]
  rfl

theorem Registry.issue_suffixed (bare : registry.suffix = "") (kind : IdentifierKind)
    (hint : Option String) :
    (registry.suffixed suffix).issue kind hint =
      ((registry.issue kind hint).1.suffixed suffix,
        (registry.issue kind hint).2.suffixed suffix) := by
  have shaped := registry.nextBase_shaped kind hint
  have base : (registry.suffixed suffix).nextBase kind hint = registry.nextBase kind hint := rfl
  rw [Registry.issue_eq, Registry.issue_eq, base, Registry.identifier_suffixed bare shaped]
  rfl

theorem issueFor_carried (entity : Entity) (kind : IdentifierKind) (hint : Option String) :
    Issuing.CarriedTo suffix (Identifier.suffixed suffix) (issueFor entity kind hint)
      (issueFor entity kind hint) := by
  have found (registry : Registry) : (registry.suffixed suffix).lookup entity =
      (registry.lookup entity).map (Identifier.suffixed suffix) :=
    registry.lookup_rename suffix entity
  have refused (registry : Registry) : (registry.suffixed suffix).refusal? entity kind hint =
      registry.refusal? entity kind hint := registry.refusal?_rename suffix entity kind hint
  refine ⟨fun {registry value after} bare ran => ?_, fun {registry problem after} bare ran => ?_⟩
  · rcases issueFor_cases entity kind hint registry with
      ⟨identifier, known, result⟩ | ⟨_, _, _, _, result⟩ | ⟨unbound, allowed, result⟩
    · rw [result] at ran
      cases ran
      refine ⟨bare, ?_⟩
      unfold issueFor
      rw [found, known]
      rfl
    · rw [result] at ran
      cases ran
    · rw [result] at ran
      cases ran
      refine ⟨bare, ?_⟩
      unfold issueFor
      rw [found, unbound, refused, allowed]
      dsimp only [Option.map_none]
      rw [Registry.issue_suffixed bare]
      rfl
  · rcases issueFor_cases entity kind hint registry with
      ⟨identifier, known, result⟩ | ⟨unbound, location, text, stopped, result⟩ | ⟨_, _, result⟩
    · rw [result] at ran
      cases ran
    · rw [result] at ran
      cases ran
      refine ⟨bare, ?_⟩
      unfold issueFor
      rw [found, unbound, refused, stopped]
      rfl
    · rw [result] at ran
      cases ran

/-- The names of variables are issued without a suffix, so adding it does not change them. -/
theorem issueVariable_carried (owner : Identifier) (name : String) :
    Issuing.CarriedTo suffix (Identifier.suffixed suffix) (issueVariable owner name)
      (issueVariable (owner.suffixed suffix) name) := by
  refine ⟨fun {registry value after} bare ran => ?_, fun {registry problem after} bare ran => ?_⟩
  · cases ran
    refine ⟨bare, ?_⟩
    have names : (registry.suffixed suffix).variablesOf (owner.suffixed suffix) =
        registry.variablesOf owner :=
      registry.variablesOf_rename (Identifier.suffixed_injective suffix) suffix owner
    have capital := (registry.issueVariable_shaped owner name).isCapital_eq_true
    unfold Registry.issueVariable at capital
    unfold issueVariable Registry.issueVariable
    rw [names, Identifier.suffixed_of_isCapital capital]
    rfl
  · cases ran

theorem lookUp_carried (entity : Entity) :
    Issuing.CarriedTo suffix (Option.map (Identifier.suffixed suffix)) (lookUp entity)
      (lookUp entity) := by
  refine ⟨fun {registry value after} bare ran => ?_, fun {registry problem after} bare ran => ?_⟩
  · cases ran
    refine ⟨bare, ?_⟩
    unfold lookUp
    rw [← Registry.lookup_rename]
    rfl
  · cases ran

theorem Issuing.CarriedTo.pure {convert : α → β} {value : α} {result : β}
    (same : convert value = result) :
    Issuing.CarriedTo suffix convert (pure value) (pure result) := by
  subst same
  refine ⟨fun bare ran => ?_, fun bare ran => ?_⟩ <;> cases ran
  exact ⟨bare, rfl⟩

theorem Issuing.CarriedTo.stop {convert : α → β} {problem other : Problem}
    (same : problem.rename (Identifier.suffixed suffix) = other) :
    Issuing.CarriedTo suffix convert (Issuing.stop problem) (Issuing.stop other) := by
  subst same
  refine ⟨fun bare ran => ?_, fun bare ran => ?_⟩ <;> cases ran
  exact ⟨bare, rfl⟩

/-- A sequence of two steps is carried over where the second is for every value that the first
returns. -/
theorem Issuing.CarriedTo.bind_of_ok {convert : α → β} {finish : γ → δ} {step : Issuing α}
    {image : Issuing β} {next : α → Issuing γ} {nextImage : β → Issuing δ}
    (first : step.CarriedTo suffix convert image)
    (second : ∀ value registry after, step registry = .ok value after →
      (next value).CarriedTo suffix finish (nextImage (convert value))) :
    (step >>= next).CarriedTo suffix finish (image >>= nextImage) := by
  refine ⟨fun {registry value after} bare ran => ?_, fun {registry problem after} bare ran => ?_⟩
  · obtain ⟨early, middle, one, two⟩ := Issuing.bind_ok.mp ran
    obtain ⟨still, carried⟩ := first.ok bare one
    obtain ⟨last, finished⟩ := (second early registry middle one).ok still two
    exact ⟨last, Issuing.bind_ok.mpr ⟨_, _, carried, finished⟩⟩
  · change EStateM.bind step next registry = _ at ran
    change _ ∧ EStateM.bind image nextImage _ = _
    unfold EStateM.bind at ran ⊢
    cases one : step registry with
    | error early middle =>
        rw [one] at ran
        cases ran
        obtain ⟨still, carried⟩ := first.error bare one
        rw [carried]
        exact ⟨still, rfl⟩
    | ok early middle =>
        rw [one] at ran
        obtain ⟨still, carried⟩ := first.ok bare one
        rw [carried]
        exact (second early registry middle one).error still ran

theorem Issuing.CarriedTo.bind {convert : α → β} {finish : γ → δ} {step : Issuing α}
    {image : Issuing β} {next : α → Issuing γ} {nextImage : β → Issuing δ}
    (first : step.CarriedTo suffix convert image)
    (second : ∀ value, (next value).CarriedTo suffix finish (nextImage (convert value))) :
    (step >>= next).CarriedTo suffix finish (image >>= nextImage) :=
  first.bind_of_ok fun value _ _ _ => second value

theorem Issuing.CarriedTo.map {convert : α → β} {finish : γ → δ} {step : Issuing α}
    {image : Issuing β} {wrap : α → γ} {wrapImage : β → δ}
    (carried : step.CarriedTo suffix convert image)
    (same : ∀ value, finish (wrap value) = wrapImage (convert value)) :
    (wrap <$> step).CarriedTo suffix finish (wrapImage <$> image) := by
  rw [map_eq_pure_bind, map_eq_pure_bind]
  exact carried.bind fun value => .pure (same value)

theorem Issuing.CarriedTo.mapM {convert : β → γ} {step : α → Issuing β} {image : α → Issuing γ}
    (carried : ∀ value, (step value).CarriedTo suffix convert (image value)) (values : List α) :
    (values.mapM step).CarriedTo suffix (List.map convert) (values.mapM image) := by
  induction values with
  | nil => exact .pure rfl
  | cons value rest ih =>
      rw [List.mapM_cons, List.mapM_cons]
      exact (carried value).bind fun first => ih.bind fun others => .pure rfl

theorem Issuing.CarriedTo.attempt {convert : α → β} {problem? : Option Problem} {value : α}
    {result : β}
    (kept : ∀ problem ∈ problem?, problem.rename (Identifier.suffixed suffix) = problem)
    (same : convert value = result) :
    (Issuing.attempt problem? value).CarriedTo suffix convert
      (Issuing.attempt problem? result) := by
  cases problem? with
  | none => exact .pure same
  | some problem => exact .stop (kept problem rfl)

theorem Issuing.mapM_map (convert : α → β) (step : β → Issuing γ) (values : List α) :
    (values.map convert).mapM step = values.mapM fun value => step (convert value) := by
  induction values with
  | nil => rfl
  | cons value rest ih => rw [List.map_cons, List.mapM_cons, List.mapM_cons, ih]

end QuizPackage
