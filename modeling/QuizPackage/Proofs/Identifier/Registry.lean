import QuizPackage.Identifier.Registry
import QuizPackage.Proofs.Identifier.Base
import Mathlib.Data.List.Nodup
import Mathlib.Logic.Relation

namespace QuizPackage

inductive Request where
  | issue (kind : IdentifierKind) (hint : Option String)
  | issueFor (entity : Entity) (kind : IdentifierKind) (hint : Option String)
  | issueVariable (owner : Identifier) (name : String)

/-- The entity that a call is about, if it is about one. -/
def Request.entity? : Request → Option Entity
  | .issueFor entity _ _ => some entity
  | .issue _ _ | .issueVariable _ _ => none

/-- What a call returns, which is nothing when strictness refuses it, and the registry after it. -/
def Registry.answer (registry : Registry) : Request → Option Identifier × Registry
  | .issue kind hint =>
      let (identifier, after) := registry.issue kind hint
      (some identifier, after)
  | .issueFor entity kind hint =>
      match issueFor entity kind hint registry with
      | .ok identifier after => (some identifier, after)
      | .error _ after => (none, after)
  | .issueVariable owner name =>
      let (variableName, after) := registry.issueVariable owner name
      (some variableName, after)

/-- One call leads from a registry to another, and is about permitted entities only. -/
def Registry.Calls (permitted : Entity → Prop) (before after : Registry) : Prop :=
  ∃ request : Request, (∀ entity ∈ request.entity?, permitted entity) ∧
    (before.answer request).2 = after

/-- Calls about permitted entities lead from a registry to another. -/
def Registry.Reaches (permitted : Entity → Prop) : Registry → Registry → Prop :=
  Relation.ReflTransGen (Registry.Calls permitted)

/-- A registry that calls have led to from one that had issued nothing. -/
def Registry.Reachable (registry : Registry) : Prop :=
  ∃ suffix strict, (Registry.empty suffix strict).Reaches (fun _ => True) registry

/-- What holds of a registry at any time. -/
structure Registry.Sound (registry : Registry) : Prop where
  basesDistinct : registry.bases.Nodup
  issuedFromBases : registry.issued.map Prod.fst = registry.bases.map registry.identifier
  entitiesDistinct : (registry.bound.map Prod.fst).Nodup
  boundDistinct : (registry.bound.map Prod.snd).Nodup
  boundIssued : ∀ entry ∈ registry.bound, entry.2 ∈ registry.issued.map Prod.fst
  ownedDistinct : registry.owned.Nodup
  suffixAllowed : ∀ c ∈ registry.suffix.toList, isBaseChar c = true
  basesShaped : ∀ base ∈ registry.bases, Shaped isBaseChar base
  ownedShaped : ∀ entry ∈ registry.owned, Shaped isVariableChar entry.2.text

variable {registry before after : Registry} {permitted : Entity → Prop}
  {entity : Entity} {kind : IdentifierKind} {hint : Option String} {identifier owner : Identifier}

theorem Identifier.text_injective : Function.Injective Identifier.text := by
  rintro ⟨first⟩ ⟨second⟩ equal
  exact congrArg Identifier.mk equal

section

variable {α β : Type} [DecidableEq α] {entries : List (α × β)} {key : α} {value : β}

theorem lookup_isSome_iff_mem :
    (entries.lookup key).isSome = true ↔ key ∈ entries.map Prod.fst := by
  simp only [List.lookup_isSome_iff, List.mem_map, beq_iff_eq]
  exact ⟨fun ⟨entry, member, equal⟩ => ⟨entry, member, equal.symm⟩,
    fun ⟨entry, member, equal⟩ => ⟨entry, member, equal.symm⟩⟩

theorem lookup_eq_none_iff_not_mem :
    entries.lookup key = none ↔ key ∉ entries.map Prod.fst := by
  rw [← lookup_isSome_iff_mem, Bool.not_eq_true, Option.isSome_eq_false_iff,
    Option.isNone_iff_eq_none]

theorem mem_of_lookup_eq_some (found : entries.lookup key = some value) :
    (key, value) ∈ entries := by
  obtain ⟨front, back, split, _⟩ := List.lookup_eq_some_iff.mp found
  rw [split]
  exact List.mem_append_right _ List.mem_cons_self

/-- In a list without repeated keys, looking up finds every entry. -/
theorem lookup_eq_some_iff_mem (distinct : (entries.map Prod.fst).Nodup) :
    entries.lookup key = some value ↔ (key, value) ∈ entries := by
  refine ⟨mem_of_lookup_eq_some, fun member => ?_⟩
  obtain ⟨front, back, split⟩ := List.append_of_mem member
  refine List.lookup_eq_some_iff.mpr ⟨front, back, split, fun entry before => ?_⟩
  rw [split, List.map_append, List.nodup_append] at distinct
  rw [bne_iff_ne]
  rintro rfl
  exact distinct.2.2 entry.1 (List.mem_map_of_mem before) entry.1 (by simp) rfl

theorem lookup_reverse (distinct : (entries.map Prod.fst).Nodup) (key : α) :
    entries.reverse.lookup key = entries.lookup key := by
  have reversed : (entries.reverse.map Prod.fst).Nodup := by
    rwa [List.map_reverse, List.nodup_reverse]
  ext value
  rw [lookup_eq_some_iff_mem reversed, lookup_eq_some_iff_mem distinct, List.mem_reverse]

end

theorem Registry.identifier_injective (registry : Registry) :
    Function.Injective registry.identifier := by
  intro first second equal
  unfold Registry.identifier at equal
  split at equal
  · simpa using equal
  · simpa [String.append_assoc] using equal

def Registry.nextBase (registry : Registry) (kind : IdentifierKind) (hint : Option String) :
    String :=
  firstFree (baseFor kind hint) registry.bases

theorem Registry.nextBase_fresh (registry : Registry) (kind : IdentifierKind)
    (hint : Option String) : registry.nextBase kind hint ∉ registry.bases :=
  firstFree_not_mem _ _

theorem Registry.nextBase_shaped (registry : Registry) (kind : IdentifierKind)
    (hint : Option String) : Shaped isBaseChar (registry.nextBase kind hint) :=
  (shaped_baseFor kind hint).firstFree holdsNumbers_base registry.bases

theorem Registry.issue_eq (registry : Registry) (kind : IdentifierKind) (hint : Option String) :
    registry.issue kind hint =
      (registry.identifier (registry.nextBase kind hint),
        { registry with
          bases := registry.nextBase kind hint :: registry.bases
          issued :=
            (registry.identifier (registry.nextBase kind hint), kind) :: registry.issued }) := rfl

theorem Registry.Sound.issue_fresh (sound : registry.Sound) (kind : IdentifierKind)
    (hint : Option String) :
    (registry.issue kind hint).1 ∉ registry.issued.map Prod.fst := by
  rw [sound.issuedFromBases, registry.issue_eq]
  intro member
  obtain ⟨base, taken, equal⟩ := List.mem_map.mp member
  rw [registry.identifier_injective equal] at taken
  exact registry.nextBase_fresh kind hint taken

theorem Registry.Sound.issue (sound : registry.Sound) (kind : IdentifierKind)
    (hint : Option String) : (registry.issue kind hint).2.Sound := by
  rw [registry.issue_eq]
  exact {
    basesDistinct := List.nodup_cons.mpr ⟨registry.nextBase_fresh kind hint, sound.basesDistinct⟩
    issuedFromBases := congrArg (List.cons _) sound.issuedFromBases
    entitiesDistinct := sound.entitiesDistinct
    boundDistinct := sound.boundDistinct
    boundIssued := fun entry member => List.mem_cons_of_mem _ (sound.boundIssued entry member)
    ownedDistinct := sound.ownedDistinct
    suffixAllowed := sound.suffixAllowed
    basesShaped := List.forall_mem_cons.mpr ⟨registry.nextBase_shaped kind hint, sound.basesShaped⟩
    ownedShaped := sound.ownedShaped }

/-- A call for an entity returns what is bound already, is refused, or binds a new identifier. -/
theorem issueFor_cases (entity : Entity) (kind : IdentifierKind) (hint : Option String)
    (registry : Registry) :
    (∃ identifier, registry.lookup entity = some identifier ∧
      issueFor entity kind hint registry = .ok identifier registry) ∨
    (registry.lookup entity = none ∧ ∃ location text,
      registry.refusal? entity kind hint = some (location, text) ∧
      issueFor entity kind hint registry = .error (.duplicateHint location kind text) registry) ∨
    (registry.lookup entity = none ∧ registry.refusal? entity kind hint = none ∧
      issueFor entity kind hint registry =
        .ok (registry.issue kind hint).1
          { (registry.issue kind hint).2 with
            bound := (entity, (registry.issue kind hint).1) :: registry.bound }) := by
  unfold issueFor
  cases known : registry.lookup entity with
  | some identifier => exact .inl ⟨identifier, rfl, rfl⟩
  | none =>
      cases refused : registry.refusal? entity kind hint with
      | some refusal => exact .inr (.inl ⟨rfl, refusal.1, refusal.2, rfl, rfl⟩)
      | none => exact .inr (.inr ⟨rfl, rfl, rfl⟩)

theorem Registry.lookup_eq_none_iff :
    registry.lookup entity = none ↔ entity ∉ registry.bound.map Prod.fst :=
  lookup_eq_none_iff_not_mem

theorem Registry.Sound.bind (sound : registry.Sound) (unbound : registry.lookup entity = none)
    (kind : IdentifierKind) (hint : Option String) :
    { (registry.issue kind hint).2 with
      bound := (entity, (registry.issue kind hint).1) :: registry.bound : Registry }.Sound := by
  have issued := sound.issue kind hint
  have fresh := sound.issue_fresh kind hint
  exact {
    basesDistinct := issued.basesDistinct
    issuedFromBases := issued.issuedFromBases
    entitiesDistinct := List.nodup_cons.mpr
      ⟨Registry.lookup_eq_none_iff.mp unbound, sound.entitiesDistinct⟩
    boundDistinct := by
      refine List.nodup_cons.mpr ⟨fun member => fresh ?_, sound.boundDistinct⟩
      obtain ⟨entry, old, equal⟩ := List.mem_map.mp member
      change entry.2 = (registry.issue kind hint).1 at equal
      rw [← equal]
      exact sound.boundIssued entry old
    boundIssued := List.forall_mem_cons.mpr ⟨List.mem_cons_self, issued.boundIssued⟩
    ownedDistinct := issued.ownedDistinct
    suffixAllowed := issued.suffixAllowed
    basesShaped := issued.basesShaped
    ownedShaped := issued.ownedShaped }

theorem Registry.mem_variablesOf {name : String} :
    name ∈ registry.variablesOf owner ↔ (owner, ⟨name⟩) ∈ registry.owned := by
  simp only [Registry.variablesOf, List.mem_map, List.mem_filter, beq_iff_eq]
  constructor
  · rintro ⟨⟨known, variableName⟩, ⟨member, rfl⟩, rfl⟩
    exact member
  · intro member
    exact ⟨(owner, ⟨name⟩), ⟨member, rfl⟩, rfl⟩

theorem Registry.issueVariable_fresh (registry : Registry) (owner : Identifier) (name : String) :
    (owner, (registry.issueVariable owner name).1) ∉ registry.owned := by
  rw [← Registry.mem_variablesOf]
  exact firstFree_not_mem _ _

theorem Registry.issueVariable_shaped (registry : Registry) (owner : Identifier)
    (name : String) : Shaped isVariableChar (registry.issueVariable owner name).1.text :=
  (shaped_baseFor .variableName (some name)).capitals.firstFree holdsNumbers_variable
    (registry.variablesOf owner)

theorem Registry.Sound.issueVariable (sound : registry.Sound) (owner : Identifier)
    (name : String) : (registry.issueVariable owner name).2.Sound where
  basesDistinct := sound.basesDistinct
  issuedFromBases := sound.issuedFromBases
  entitiesDistinct := sound.entitiesDistinct
  boundDistinct := sound.boundDistinct
  boundIssued := sound.boundIssued
  ownedDistinct := List.nodup_cons.mpr
    ⟨registry.issueVariable_fresh owner name, sound.ownedDistinct⟩
  suffixAllowed := sound.suffixAllowed
  basesShaped := sound.basesShaped
  ownedShaped := List.forall_mem_cons.mpr
    ⟨registry.issueVariable_shaped owner name, sound.ownedShaped⟩

theorem Registry.Sound.answer (sound : registry.Sound) (request : Request) :
    (registry.answer request).2.Sound := by
  cases request with
  | issue kind hint => exact sound.issue kind hint
  | issueFor entity kind hint =>
      simp only [Registry.answer]
      rcases issueFor_cases entity kind hint registry with
        ⟨_, _, result⟩ | ⟨_, _, _, _, result⟩ | ⟨unbound, _, result⟩
      · rwa [result]
      · rwa [result]
      · rw [result]
        exact sound.bind unbound kind hint
  | issueVariable owner name => exact sound.issueVariable owner name

theorem Registry.Reaches.refl (registry : Registry) : registry.Reaches permitted registry :=
  Relation.ReflTransGen.refl

theorem Registry.Reaches.trans {middle : Registry} (first : before.Reaches permitted middle)
    (second : middle.Reaches permitted after) : before.Reaches permitted after :=
  Relation.ReflTransGen.trans first second

theorem Registry.Reaches.single {request : Request}
    (allowed : ∀ entity ∈ request.entity?, permitted entity) :
    registry.Reaches permitted (registry.answer request).2 :=
  Relation.ReflTransGen.single ⟨request, allowed, rfl⟩

theorem Registry.Reaches.mono {wider : Entity → Prop} (reaches : before.Reaches permitted after)
    (wide : ∀ entity, permitted entity → wider entity) : before.Reaches wider after := by
  refine Relation.ReflTransGen.mono (fun first second call => ?_) _ _ reaches
  obtain ⟨request, allowed, result⟩ := call
  exact ⟨request, fun entity member => wide entity (allowed entity member), result⟩

theorem Registry.Reaches.sound (reaches : before.Reaches permitted after)
    (sound : before.Sound) : after.Sound := by
  induction reaches with
  | refl => exact sound
  | tail _ call ih =>
      obtain ⟨request, _, rfl⟩ := call
      exact ih.answer request

theorem Registry.empty_sound (suffix : String) (strict : Bool) :
    (Registry.empty suffix strict).Sound where
  basesDistinct := List.nodup_nil
  issuedFromBases := rfl
  entitiesDistinct := List.nodup_nil
  boundDistinct := List.nodup_nil
  boundIssued := by simp [Registry.empty]
  ownedDistinct := List.nodup_nil
  suffixAllowed := fun _ => isBaseChar_of_mem_sanitize
  basesShaped := by simp [Registry.empty]
  ownedShaped := by simp [Registry.empty]

theorem Registry.Reachable.sound (reachable : registry.Reachable) : registry.Sound := by
  obtain ⟨suffix, strict, reaches⟩ := reachable
  exact reaches.sound (Registry.empty_sound suffix strict)

theorem Registry.empty_reachable (suffix : String) (strict : Bool) :
    (Registry.empty suffix strict).Reachable :=
  ⟨suffix, strict, .refl _⟩

theorem Registry.Reachable.reaches (reachable : before.Reachable)
    (reaches : before.Reaches permitted after) : after.Reachable := by
  obtain ⟨suffix, strict, earlier⟩ := reachable
  exact ⟨suffix, strict, earlier.trans (reaches.mono fun _ _ => trivial)⟩

/-- A registry has what another had, and new entries only in front of it. -/
structure Registry.Grows (before after : Registry) : Prop where
  suffix : after.suffix = before.suffix
  strict : after.strict = before.strict
  bases : before.bases <:+ after.bases
  issued : before.issued <:+ after.issued
  owned : before.owned <:+ after.owned

theorem Registry.Grows.refl (registry : Registry) : registry.Grows registry :=
  ⟨rfl, rfl, List.suffix_rfl, List.suffix_rfl, List.suffix_rfl⟩

theorem Registry.Grows.trans {middle : Registry} (first : before.Grows middle)
    (second : middle.Grows after) : before.Grows after where
  suffix := second.suffix.trans first.suffix
  strict := second.strict.trans first.strict
  bases := first.bases.trans second.bases
  issued := first.issued.trans second.issued
  owned := first.owned.trans second.owned

theorem Registry.issue_grows (registry : Registry) (kind : IdentifierKind) (hint : Option String)
    (bound : List (Entity × Identifier)) :
    registry.Grows { (registry.issue kind hint).2 with bound := bound } :=
  ⟨rfl, rfl, List.suffix_cons _ _, List.suffix_cons _ _, List.suffix_rfl⟩

theorem Registry.answer_grows (registry : Registry) (request : Request) :
    registry.Grows (registry.answer request).2 := by
  cases request with
  | issue kind hint => exact registry.issue_grows kind hint registry.bound
  | issueFor entity kind hint =>
      simp only [Registry.answer]
      rcases issueFor_cases entity kind hint registry with
        ⟨_, _, result⟩ | ⟨_, _, _, _, result⟩ | ⟨_, _, result⟩
      · rw [result]
        exact .refl registry
      · rw [result]
        exact .refl registry
      · rw [result]
        exact registry.issue_grows kind hint _
  | issueVariable owner name =>
      exact ⟨rfl, rfl, List.suffix_rfl, List.suffix_rfl, List.suffix_cons _ _⟩

theorem Registry.Reaches.grows (reaches : before.Reaches permitted after) :
    before.Grows after := by
  induction reaches with
  | refl => exact .refl before
  | tail _ call ih =>
      obtain ⟨request, _, rfl⟩ := call
      exact ih.trans (Registry.answer_grows _ request)

/-- A call binds at most the entity that it is about, and only if that had no identifier. -/
theorem Registry.answer_bound (registry : Registry) (request : Request) :
    (registry.answer request).2.bound = registry.bound ∨
      ∃ entity ∈ request.entity?, ∃ identifier, registry.lookup entity = none ∧
        (registry.answer request).2.bound = (entity, identifier) :: registry.bound := by
  cases request with
  | issue kind hint => exact .inl rfl
  | issueFor entity kind hint =>
      simp only [Registry.answer]
      rcases issueFor_cases entity kind hint registry with
        ⟨_, _, result⟩ | ⟨_, _, _, _, result⟩ | ⟨unbound, _, result⟩
      · exact .inl (by rw [result])
      · exact .inl (by rw [result])
      · rw [result]
        exact .inr ⟨entity, rfl, _, unbound, rfl⟩
  | issueVariable owner name => exact .inl rfl

theorem Registry.Reaches.lookup_eq_some (reaches : before.Reaches permitted after)
    (bound : before.lookup entity = some identifier) :
    after.lookup entity = some identifier := by
  induction reaches with
  | refl => exact bound
  | @tail middle last _ call ih =>
      obtain ⟨request, _, rfl⟩ := call
      rcases Registry.answer_bound middle request with
        same | ⟨added, _, _, unbound, result⟩
      · rwa [Registry.lookup, same]
      · have other : (entity == added) = false := by
          rw [beq_eq_false_iff_ne]
          rintro rfl
          rw [ih] at unbound
          cases unbound
        rw [Registry.lookup, result, List.lookup_cons, other]
        exact ih

/-- Entities that no call was about keep what is bound to them. -/
theorem Registry.Reaches.lookup_eq (reaches : before.Reaches permitted after)
    (excluded : ¬ permitted entity) : after.lookup entity = before.lookup entity := by
  induction reaches with
  | refl => rfl
  | @tail middle last _ call ih =>
      obtain ⟨request, allowed, rfl⟩ := call
      rcases Registry.answer_bound middle request with
        same | ⟨added, asked, _, _, result⟩
      · rw [← ih, Registry.lookup, same]
        rfl
      · have other : (entity == added) = false := by
          rw [beq_eq_false_iff_ne]
          rintro rfl
          exact excluded (allowed entity asked)
        rw [← ih, Registry.lookup, result, List.lookup_cons, other]
        rfl

theorem Registry.Sound.issuedDistinct (sound : registry.Sound) :
    (registry.issued.map Prod.fst).Nodup := by
  rw [sound.issuedFromBases]
  exact List.Nodup.map registry.identifier_injective sound.basesDistinct

theorem Registry.contains_iff :
    registry.contains identifier = true ↔ identifier ∈ registry.issued.map Prod.fst :=
  lookup_isSome_iff_mem

/-- Every identifier that is issued is made of a base. -/
theorem Registry.Sound.exists_base (sound : registry.Sound)
    (issued : registry.contains identifier = true) :
    ∃ base ∈ registry.bases, identifier = registry.identifier base := by
  rw [Registry.contains_iff, sound.issuedFromBases] at issued
  obtain ⟨base, taken, rfl⟩ := List.mem_map.mp issued
  exact ⟨base, taken, rfl⟩

theorem Registry.isVariableOf_iff {name : Identifier} :
    registry.isVariableOf owner name = true ↔ (owner, name) ∈ registry.owned := by
  simp [Registry.isVariableOf]

theorem Registry.Reaches.isVariableOf {name : Identifier}
    (reaches : before.Reaches permitted after) (owned : before.isVariableOf owner name = true) :
    after.isVariableOf owner name = true := by
  rw [Registry.isVariableOf_iff] at owned ⊢
  exact reaches.grows.owned.subset owned

theorem Registry.Sound.lookup_issued (sound : registry.Sound)
    (bound : registry.lookup entity = some identifier) :
    registry.contains identifier = true :=
  Registry.contains_iff.mpr (sound.boundIssued _ (mem_of_lookup_eq_some bound))

theorem Registry.Sound.lookup_ne_empty (sound : registry.Sound)
    (bound : registry.lookup entity = some identifier) : identifier.text ≠ "" := by
  obtain ⟨base, taken, rfl⟩ := sound.exists_base (sound.lookup_issued bound)
  have filled := (sound.basesShaped base taken).ne_empty
  unfold Registry.identifier
  split
  · exact filled
  · simp [filled]

theorem Registry.Sound.lookup_injective (sound : registry.Sound) {other : Entity}
    (first : registry.lookup entity = some identifier)
    (second : registry.lookup other = some identifier) : entity = other := by
  have same := List.inj_on_of_nodup_map sound.boundDistinct (mem_of_lookup_eq_some first)
    (mem_of_lookup_eq_some second) rfl
  exact congrArg Prod.fst same

/-- Distinct entities have distinct identifiers. -/
theorem Registry.Sound.lookups_nodup {α : Type} {entity : α → Entity} {keys : List α}
    {identifiers : List Identifier} (sound : registry.Sound)
    (injective : Function.Injective entity)
    (bound : List.Forall₂ (fun key identifier => registry.lookup (entity key) = some identifier)
      keys identifiers) (distinct : keys.Nodup) : identifiers.Nodup := by
  refine (List.rel_nodup ⟨?_, ?_⟩ bound).mp distinct
  · intro first identifier second one two
    exact injective (sound.lookup_injective one two)
  · intro key first second one two
    exact Option.some.inj (one.symm.trans two)

end QuizPackage
