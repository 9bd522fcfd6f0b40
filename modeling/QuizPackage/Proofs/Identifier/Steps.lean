import QuizPackage.Proofs.Identifier.Registry

namespace QuizPackage

variable {α β : Type} {permitted : Entity → Prop} {registry before after : Registry}

/-- The registry that a step leaves, whether it succeeds or not. -/
def Issuing.finish (step : Issuing α) (registry : Registry) : Registry :=
  match step registry with
  | .ok _ after => after
  | .error _ after => after

/-- Why a step fails, if it fails. -/
def Issuing.verdict (step : Issuing α) (registry : Registry) : Option Problem :=
  match step registry with
  | .ok _ _ => none
  | .error problem _ => some problem

/-- The calls that a step makes are about permitted entities. -/
def Issuing.Within (permitted : Entity → Prop) (step : Issuing α) : Prop :=
  ∀ registry : Registry, registry.Reaches permitted (step.finish registry)

theorem Issuing.finish_of_ok {step : Issuing α} {value : α} (ran : step registry = .ok value after) :
    step.finish registry = after := by
  simp [Issuing.finish, ran]

theorem Issuing.verdict_eq_none {step : Issuing α} :
    step.verdict registry = none ↔ ∃ value after, step registry = .ok value after := by
  unfold Issuing.verdict
  cases step registry <;> simp

theorem Issuing.verdict_eq_some {step : Issuing α} {problem : Problem} :
    step.verdict registry = some problem ↔ ∃ after, step registry = .error problem after := by
  unfold Issuing.verdict
  cases step registry <;> simp

theorem Issuing.bind_ok {step : Issuing α} {next : α → Issuing β} {value : β} :
    (step >>= next) registry = .ok value after ↔
      ∃ first middle, step registry = .ok first middle ∧ next first middle = .ok value after := by
  change EStateM.bind step next registry = _ ↔ _
  unfold EStateM.bind
  cases step registry <;> simp

theorem Issuing.map_ok {step : Issuing α} {convert : α → β} {value : β} :
    (convert <$> step) registry = .ok value after ↔
      ∃ first, step registry = .ok first after ∧ convert first = value := by
  change EStateM.map convert step registry = _ ↔ _
  unfold EStateM.map
  cases step registry with
  | ok first middle =>
      simp only [EStateM.Result.ok.injEq]
      constructor
      · rintro ⟨rfl, rfl⟩
        exact ⟨first, ⟨rfl, rfl⟩, rfl⟩
      · rintro ⟨_, ⟨rfl, rfl⟩, rfl⟩
        exact ⟨rfl, rfl⟩
  | error problem middle => simp

/-- A sequence of two steps fails with the first, or else with the second. -/
theorem Issuing.verdict_bind (step : Issuing α) (next : α → Issuing β) :
    (step >>= next).verdict registry =
      match step registry with
      | .ok value middle => (next value).verdict middle
      | .error problem _ => some problem := by
  change Issuing.verdict (EStateM.bind step next) registry = _
  unfold Issuing.verdict EStateM.bind
  cases step registry <;> rfl

theorem Issuing.verdict_bind_of_ok {step : Issuing α} {next : α → Issuing β} {value : α}
    (ran : step registry = .ok value after) :
    (step >>= next).verdict registry = (next value).verdict after := by
  rw [Issuing.verdict_bind, ran]

theorem Issuing.verdict_map (step : Issuing α) (convert : α → β) :
    (convert <$> step).verdict registry = step.verdict registry := by
  change Issuing.verdict (EStateM.map convert step) registry = _
  unfold Issuing.verdict EStateM.map
  cases step registry <;> rfl

theorem Issuing.Within.pure (value : α) : Issuing.Within permitted (pure value) :=
  fun registry => Registry.Reaches.refl registry

theorem Issuing.Within.get : Issuing.Within permitted (get : Issuing Registry) :=
  fun registry => Registry.Reaches.refl registry

theorem Issuing.Within.stop (problem : Problem) :
    Issuing.Within permitted (Issuing.stop problem : Issuing α) :=
  fun registry => Registry.Reaches.refl registry

theorem Issuing.Within.bind {step : Issuing α} {next : α → Issuing β} (first : step.Within permitted)
    (second : ∀ value, (next value).Within permitted) : (step >>= next).Within permitted := by
  intro registry
  change registry.Reaches permitted (Issuing.finish (EStateM.bind step next) registry)
  have reaches := first registry
  unfold Issuing.finish EStateM.bind at *
  cases ran : step registry with
  | ok value middle =>
      rw [ran] at reaches
      exact reaches.trans (second value middle)
  | error problem middle =>
      rw [ran] at reaches
      exact reaches

theorem Issuing.Within.map {step : Issuing α} (convert : α → β) (within : step.Within permitted) :
    (convert <$> step).Within permitted := by
  rw [map_eq_pure_bind]
  exact within.bind fun value => .pure _

theorem Issuing.Within.mapM {step : α → Issuing β} (values : List α)
    (within : ∀ value ∈ values, (step value).Within permitted) :
    (values.mapM step).Within permitted := by
  induction values with
  | nil => exact .pure []
  | cons value rest ih =>
      rw [List.mapM_cons]
      refine (within value (by simp)).bind fun first => ?_
      refine (ih fun other member => within other (by simp [member])).bind fun others => .pure _

theorem Issuing.Within.mono {wider : Entity → Prop} {step : Issuing α}
    (within : step.Within permitted) (wide : ∀ entity, permitted entity → wider entity) :
    step.Within wider :=
  fun registry => (within registry).mono wide

theorem Issuing.Within.reaches {step : Issuing α} {value : α} (within : step.Within permitted)
    (ran : step registry = .ok value after) : registry.Reaches permitted after :=
  Issuing.finish_of_ok ran ▸ within registry

/-- A fact about each value and its result that later calls leave true holds at the end. -/
theorem Issuing.mapM_ok {step : α → Issuing β} {values : List α} {results : List β}
    (fact : α → β → Registry → Prop)
    (within : ∀ value ∈ values, (step value).Within permitted)
    (kept : ∀ value result before after, before.Reaches permitted after →
      fact value result before → fact value result after)
    (each : ∀ value ∈ values, ∀ before result after, registry.Reaches permitted before →
      step value before = .ok result after → fact value result after)
    (ran : values.mapM step registry = .ok results after) :
    List.Forall₂ (fact · · after) values results := by
  induction values generalizing registry results with
  | nil =>
      cases ran
      exact .nil
  | cons value rest ih =>
      rw [List.mapM_cons, Issuing.bind_ok] at ran
      obtain ⟨first, middle, one, ran⟩ := ran
      obtain ⟨others, last, all, finished⟩ := Issuing.bind_ok.mp ran
      cases finished
      have withinRest := fun other (member : other ∈ rest) => within other (by simp [member])
      have start := (within value (by simp)).reaches one
      have finish := (Issuing.Within.mapM rest withinRest).reaches all
      refine .cons (kept _ _ _ _ finish ?_) (ih withinRest ?_ all)
      · exact each value (by simp) registry first middle (.refl registry) one
      · intro other member before result after reaches result
        exact each other (by simp [member]) _ _ _ (start.trans reaches) result

theorem exists_of_forall₂_right {α β : Type} {related : α → β → Prop} {left : List α}
    {right : List β} (all : List.Forall₂ related left right) {value : β} (member : value ∈ right) :
    ∃ origin ∈ left, related origin value := by
  induction all with
  | nil => cases member
  | cons single _ ih =>
      rcases List.mem_cons.mp member with rfl | member
      · exact ⟨_, List.mem_cons_self, single⟩
      · obtain ⟨origin, inside, found⟩ := ih member
        exact ⟨origin, List.mem_cons_of_mem _ inside, found⟩

theorem exists_of_forall₂_left {α β : Type} {related : α → β → Prop} {left : List α}
    {right : List β} (all : List.Forall₂ related left right) {value : α} (member : value ∈ left) :
    ∃ image ∈ right, related value image :=
  exists_of_forall₂_right all.flip member

/-- A relation of two registries, which links the steps of a list one by one, links all of them. -/
theorem Issuing.mapM_linked {step : α → Issuing β} {values : List α} {results : List β}
    (linked : List α → List β → Registry → Registry → Prop)
    (nil : ∀ registry, linked [] [] registry registry)
    (cons : ∀ value result rest others before middle after,
      step value before = .ok result middle → linked rest others middle after →
        linked (value :: rest) (result :: others) before after)
    (ran : values.mapM step registry = .ok results after) :
    linked values results registry after := by
  induction values generalizing registry results with
  | nil =>
      cases ran
      exact nil _
  | cons value rest ih =>
      rw [List.mapM_cons, Issuing.bind_ok] at ran
      obtain ⟨first, middle, one, ran⟩ := ran
      obtain ⟨others, last, all, finished⟩ := Issuing.bind_ok.mp ran
      cases finished
      exact cons value first rest others registry middle after one (ih all)

/-- Where each step's verdict does not depend on the registry, a list of steps fails with the first
that fails. -/
theorem Issuing.verdict_mapM {step : α → Issuing β} {values : List α} (judge : α → Option Problem)
    (within : ∀ value ∈ values, (step value).Within permitted)
    (each : ∀ value ∈ values, ∀ before, registry.Reaches permitted before →
      (step value).verdict before = judge value) :
    (values.mapM step).verdict registry = values.findSome? judge := by
  induction values generalizing registry with
  | nil => rfl
  | cons value rest ih =>
      rw [List.mapM_cons, Issuing.verdict_bind]
      have first := each value (by simp) registry (.refl registry)
      have withinRest := fun other (member : other ∈ rest) => within other (by simp [member])
      cases ran : step value registry with
      | error problem middle =>
          have judged : judge value = some problem := by
            rw [← first]
            exact Issuing.verdict_eq_some.mpr ⟨middle, ran⟩
          rw [List.findSome?_cons, judged]
      | ok result middle =>
          have judged : judge value = none := by
            rw [← first]
            exact Issuing.verdict_eq_none.mpr ⟨result, middle, ran⟩
          have start := (within value (by simp)).reaches ran
          have others := ih withinRest fun other member before reaches =>
            each other (by simp [member]) before (start.trans reaches)
          rw [List.findSome?_cons, judged, ← others]
          exact Issuing.verdict_map (rest.mapM step) (result :: ·)

/-- Returns a value unless there is a problem. -/
def Issuing.attempt (problem? : Option Problem) (value : α) : Issuing α :=
  match problem? with
  | some problem => Issuing.stop problem
  | none => pure value

theorem Issuing.attempt_within (problem? : Option Problem) (value : α) :
    (Issuing.attempt problem? value).Within permitted := by
  cases problem? with
  | none => exact .pure value
  | some problem => exact .stop problem

theorem Issuing.attempt_ok {problem? : Option Problem} {value result : α} :
    Issuing.attempt problem? value registry = .ok result after ↔
      problem? = none ∧ result = value ∧ after = registry := by
  cases problem? with
  | none =>
      constructor
      · intro ran
        cases ran
        exact ⟨rfl, rfl, rfl⟩
      · rintro ⟨_, rfl, rfl⟩
        rfl
  | some problem =>
      constructor
      · intro ran
        cases ran
      · rintro ⟨impossible, _⟩
        cases impossible

theorem Issuing.verdict_attempt_bind (problem? : Option Problem) (value : α)
    (next : α → Issuing β) :
    (Issuing.attempt problem? value >>= next).verdict registry =
      (problem? <|> (next value).verdict registry) := by
  cases problem? with
  | none => exact Issuing.verdict_bind_of_ok rfl
  | some problem => exact Issuing.verdict_bind _ _

theorem Issuing.attempt_verdict (problem? : Option Problem) (value : α) :
    (Issuing.attempt problem? value).verdict registry = problem? := by
  cases problem? <;> rfl

theorem issueFor_within (entity : Entity) (kind : IdentifierKind) (hint : Option String)
    (allowed : permitted entity) : (issueFor entity kind hint).Within permitted := by
  intro registry
  have reaches : registry.Reaches permitted (registry.answer (.issueFor entity kind hint)).2 :=
    .single fun named member => Option.some.inj member ▸ allowed
  dsimp only [Registry.answer] at reaches
  unfold Issuing.finish
  cases ran : issueFor entity kind hint registry with
  | ok identifier after =>
      rw [ran] at reaches
      exact reaches
  | error problem after =>
      rw [ran] at reaches
      exact reaches

theorem issueVariable_within (owner : Identifier) (name : String) :
    (issueVariable owner name).Within permitted := by
  intro registry
  have reaches : registry.Reaches permitted (registry.answer (.issueVariable owner name)).2 :=
    .single fun named member => by cases member
  exact reaches

theorem issueFor_ok {entity : Entity} {kind : IdentifierKind} {hint : Option String}
    {identifier : Identifier} (ran : issueFor entity kind hint registry = .ok identifier after) :
    after.lookup entity = some identifier := by
  rcases issueFor_cases entity kind hint registry with
    ⟨_, known, result⟩ | ⟨_, _, _, _, result⟩ | ⟨_, _, result⟩
  · rw [result] at ran
    cases ran
    exact known
  · rw [result] at ran
    cases ran
  · rw [result] at ran
    cases ran
    exact List.lookup_cons_self

theorem issueVariable_ok {owner variableName : Identifier} {name : String}
    (ran : issueVariable owner name registry = .ok variableName after) :
    registry.isVariableOf owner variableName = false ∧
      after.isVariableOf owner variableName = true := by
  cases ran
  refine ⟨?_, Registry.isVariableOf_iff.mpr List.mem_cons_self⟩
  rw [Bool.eq_false_iff, ne_eq, Registry.isVariableOf_iff]
  exact registry.issueVariable_fresh owner name

/-- All that a registry has issued beyond another is among some identifiers. -/
def Registry.Adds (before after : Registry) (names : List Identifier) : Prop :=
  ∀ name, after.contains name = true → before.contains name = true ∨ name ∈ names

theorem Registry.Adds.refl (registry : Registry) : registry.Adds registry [] :=
  fun _ issued => .inl issued

theorem Registry.Adds.trans {middle : Registry} {names others : List Identifier}
    (first : before.Adds middle names) (second : middle.Adds after others) :
    before.Adds after (names ++ others) := by
  intro name issued
  rw [List.mem_append]
  rcases second name issued with earlier | added
  · rcases first name earlier with known | added
    · exact .inl known
    · exact .inr (.inl added)
  · exact .inr (.inr added)

theorem Registry.Adds.mono {names wider : List Identifier} (adds : before.Adds after names)
    (included : names ⊆ wider) : before.Adds after wider := by
  intro name issued
  rcases adds name issued with known | added
  · exact .inl known
  · exact .inr (included added)

theorem issueFor_adds {entity : Entity} {kind : IdentifierKind} {hint : Option String}
    {identifier : Identifier} (ran : issueFor entity kind hint registry = .ok identifier after) :
    registry.Adds after [identifier] := by
  intro name issued
  rcases issueFor_cases entity kind hint registry with
    ⟨_, _, result⟩ | ⟨_, _, _, _, result⟩ | ⟨_, _, result⟩
  · rw [result] at ran
    cases ran
    exact .inl issued
  · rw [result] at ran
    cases ran
  · rw [result] at ran
    cases ran
    rw [Registry.contains_iff, Registry.issue_eq, List.map_cons, List.mem_cons] at issued
    rw [Registry.contains_iff, List.mem_singleton]
    exact issued.symm

/-- Variables are not issued for the package. -/
theorem issueVariable_adds {owner variableName : Identifier} {name : String}
    (ran : issueVariable owner name registry = .ok variableName after) :
    registry.Adds after [] := by
  cases ran
  exact fun _ issued => .inl issued

/-- Where each result names all that its step adds, the results of a list name all that is added. -/
theorem Issuing.mapM_adds {step : α → Issuing β} {values : List α} {results : List β}
    (named : β → List Identifier)
    (each : ∀ value result before after, step value before = .ok result after →
      before.Adds after (named result))
    (ran : values.mapM step registry = .ok results after) :
    registry.Adds after (results.flatMap named) := by
  refine Issuing.mapM_linked
    (fun _ results before after => before.Adds after (results.flatMap named)) ?_ ?_ ran
  · intro registry
    exact .refl registry
  · intro value result rest others before middle after one more
    exact (each value result before middle one).trans more

/-- On a registry that is not strict, the step succeeds and leaves such a registry. -/
def Issuing.Lenient (step : Issuing α) : Prop :=
  ∀ registry : Registry, registry.strict = false →
    ∃ value after, step registry = .ok value after ∧ after.strict = false

theorem Issuing.Lenient.pure (value : α) : Issuing.Lenient (pure value) :=
  fun registry lenient => ⟨value, registry, rfl, lenient⟩

theorem Issuing.Lenient.get : Issuing.Lenient (get : Issuing Registry) :=
  fun registry lenient => ⟨registry, registry, rfl, lenient⟩

theorem Issuing.Lenient.bind {step : Issuing α} {next : α → Issuing β} (first : step.Lenient)
    (second : ∀ value, (next value).Lenient) : (step >>= next).Lenient := by
  intro registry lenient
  obtain ⟨value, middle, ran, still⟩ := first registry lenient
  obtain ⟨result, after, finished, last⟩ := second value middle still
  exact ⟨result, after, Issuing.bind_ok.mpr ⟨value, middle, ran, finished⟩, last⟩

theorem issueFor_lenient (entity : Entity) (kind : IdentifierKind) (hint : Option String) :
    (issueFor entity kind hint).Lenient := by
  intro registry lenient
  rcases issueFor_cases entity kind hint registry with
    ⟨_, _, result⟩ | ⟨_, _, _, refused, _⟩ | ⟨_, _, result⟩
  · exact ⟨_, _, result, lenient⟩
  -- Only strictness refuses an identifier.
  · unfold Registry.refusal? at refused
    split at refused
    · simp [lenient] at refused
    · cases refused
  · exact ⟨_, _, result, lenient⟩

theorem issueVariable_lenient (owner : Identifier) (name : String) :
    (issueVariable owner name).Lenient :=
  fun _ lenient => ⟨_, _, rfl, lenient⟩

/-- The step succeeds on every registry, strict or not. -/
def Issuing.Sure (step : Issuing α) : Prop :=
  ∀ registry : Registry, ∃ value after, step registry = .ok value after

theorem Issuing.Sure.pure (value : α) : Issuing.Sure (pure value) :=
  fun registry => ⟨value, registry, rfl⟩

theorem Issuing.Sure.bind {step : Issuing α} {next : α → Issuing β} (first : step.Sure)
    (second : ∀ value, (next value).Sure) : (step >>= next).Sure := by
  intro registry
  obtain ⟨value, middle, ran⟩ := first registry
  obtain ⟨result, after, finished⟩ := second value middle
  exact ⟨result, after, Issuing.bind_ok.mpr ⟨value, middle, ran, finished⟩⟩

theorem Issuing.Sure.map {step : Issuing α} (convert : α → β) (sure : step.Sure) :
    (convert <$> step).Sure := by
  rw [map_eq_pure_bind]
  exact sure.bind fun value => .pure _

theorem Issuing.Sure.mapM {step : α → Issuing β} (values : List α)
    (sure : ∀ value, (step value).Sure) : (values.mapM step).Sure := by
  induction values with
  | nil => exact .pure []
  | cons value rest ih =>
      rw [List.mapM_cons]
      exact (sure value).bind fun first => ih.bind fun others => .pure _

/-- A step with nothing after it that can fail fails by itself, and on the registry it leaves. -/
theorem Issuing.bind_error_of_sure {step : Issuing α} {next : α → Issuing β} {problem : Problem}
    (sure : ∀ value, (next value).Sure) :
    (step >>= next) registry = .error problem after ↔ step registry = .error problem after := by
  change EStateM.bind step next registry = _ ↔ _
  unfold EStateM.bind
  cases step registry with
  | ok value middle =>
      obtain ⟨result, last, ran⟩ := sure value middle
      simp [ran]
  | error reason middle => simp

/-- Calls do not make a registry strict. -/
theorem Issuing.Sure.lenient {step : Issuing α} (sure : step.Sure) (within : step.Within permitted) :
    step.Lenient := by
  intro registry lenient
  obtain ⟨value, after, ran⟩ := sure registry
  exact ⟨value, after, ran, (within.reaches ran).grows.strict.trans lenient⟩

/-- Strictness refuses hints only. -/
theorem issueFor_sure (entity : Entity) (kind : IdentifierKind) :
    (issueFor entity kind none).Sure := by
  intro registry
  rcases issueFor_cases entity kind none registry with
    ⟨_, _, result⟩ | ⟨_, _, _, refused, _⟩ | ⟨_, _, result⟩
  · exact ⟨_, _, result⟩
  · cases refused
  · exact ⟨_, _, result⟩

theorem issueVariable_sure (owner : Identifier) (name : String) :
    (issueVariable owner name).Sure :=
  fun _ => ⟨_, _, rfl⟩

end QuizPackage
