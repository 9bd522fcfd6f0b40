import QuizPackage.Proofs.Identifier.Registry

namespace QuizPackage

structure Exchange where
  request : Request
  answer : Option Identifier

/-- Calls one after the other: what each returns, and the registry after the last. -/
def Registry.serve (registry : Registry) : List Request → List Exchange × Registry
  | [] => ([], registry)
  | request :: rest =>
      let (answer, next) := registry.answer request
      let (history, last) := next.serve rest
      (⟨request, answer⟩ :: history, last)

/-- The identifiers that a history issues, with the kinds they were asked for, in their order. A
call for an entity that is already bound issues none. -/
def newlyIssued (bound : List Entity) : List Exchange → List (Identifier × IdentifierKind)
  | [] => []
  | ⟨.issue kind _, some identifier⟩ :: rest => (identifier, kind) :: newlyIssued bound rest
  | ⟨.issueFor entity kind _, some identifier⟩ :: rest =>
      if entity ∈ bound then newlyIssued bound rest
      else (identifier, kind) :: newlyIssued (entity :: bound) rest
  | _ :: rest => newlyIssued bound rest

def Exchange.binding? : Exchange → Option (Entity × Identifier)
  | ⟨.issueFor entity _ _, some identifier⟩ => some (entity, identifier)
  | _ => none

def bindings (history : List Exchange) : List (Entity × Identifier) :=
  history.filterMap Exchange.binding?

def Exchange.variable? : Exchange → Option (Identifier × Identifier)
  | ⟨.issueVariable owner _, some variableName⟩ => some (owner, variableName)
  | _ => none

def variablesFor (owner : Identifier) (history : List Exchange) : List Identifier :=
  ((history.filterMap Exchange.variable?).filter fun issued => issued.1 == owner).map Prod.snd

/-- A registry tells exactly what its history says, and the history repeats no identifier that it
issues, no entity's identifier for another entity, and no variable of an owner. -/
structure Registry.Records (registry : Registry) (history : List Exchange) : Prop where
  issuedOnce : ((newlyIssued [] history).map Prod.fst).Nodup
  counted : registry.size = (newlyIssued [] history).length
  contained : ∀ identifier, registry.contains identifier = true ↔
    identifier ∈ (newlyIssued [] history).map Prod.fst
  kinds : ∀ identifier, registry.kindOf identifier = (newlyIssued [] history).lookup identifier
  bound : ∀ entity identifier, registry.lookup entity = some identifier ↔
    (entity, identifier) ∈ bindings history
  boundOnce : ∀ entity first second, (entity, first) ∈ bindings history →
    (entity, second) ∈ bindings history → first = second
  boundApart : ∀ first second identifier, (first, identifier) ∈ bindings history →
    (second, identifier) ∈ bindings history → first = second
  boundIssued : ∀ entity identifier, registry.lookup entity = some identifier →
    registry.contains identifier = true
  settled : ∀ entity identifier, registry.lookup entity = some identifier →
    ∀ kind hint, registry.answer (.issueFor entity kind hint) = (some identifier, registry)
  ownedOnce : ∀ owner, (variablesFor owner history).Nodup

variable {registry : Registry} {requests : List Request}

theorem Registry.serve_reaches (registry : Registry) (requests : List Request) :
    registry.Reaches (fun _ => True) (registry.serve requests).2 := by
  induction requests generalizing registry with
  | nil => exact .refl registry
  | cons request rest ih =>
      have first : registry.Reaches (fun _ => True) (registry.answer request).2 :=
        .single fun _ _ => trivial
      exact first.trans (ih _)

theorem Registry.lookup_of_binding {request : Request} {entity : Entity} {identifier : Identifier}
    (answered : Exchange.binding? ⟨request, (registry.answer request).1⟩ =
      some (entity, identifier)) :
    (registry.answer request).2.lookup entity = some identifier := by
  cases request with
  | issue kind hint => cases answered
  | issueVariable owner name => cases answered
  | issueFor asked kind hint =>
      simp only [Registry.answer] at answered ⊢
      rcases issueFor_cases asked kind hint registry with
        ⟨_, known, result⟩ | ⟨_, _, _, _, result⟩ | ⟨_, _, result⟩
      · rw [result] at answered ⊢
        cases answered
        exact known
      · rw [result] at answered
        cases answered
      · rw [result] at answered ⊢
        cases answered
        exact List.lookup_cons_self

/-- A call issues at most one identifier, the one that its history says. -/
theorem Registry.answer_issued (registry : Registry) (request : Request) :
    ∃ fresh : Option (Identifier × IdentifierKind),
      (registry.answer request).2.issued = fresh.toList ++ registry.issued ∧
      ∀ rest, newlyIssued (registry.bound.map Prod.fst)
          (⟨request, (registry.answer request).1⟩ :: rest) =
        fresh.toList ++ newlyIssued ((registry.answer request).2.bound.map Prod.fst) rest := by
  cases request with
  | issue kind hint => exact ⟨some ((registry.issue kind hint).1, kind), rfl, fun _ => rfl⟩
  | issueVariable owner name => exact ⟨none, rfl, fun _ => rfl⟩
  | issueFor entity kind hint =>
      simp only [Registry.answer]
      rcases issueFor_cases entity kind hint registry with
        ⟨identifier, known, result⟩ | ⟨_, _, _, _, result⟩ | ⟨unbound, _, result⟩
      · have bound : entity ∈ registry.bound.map Prod.fst :=
          List.mem_map_of_mem (mem_of_lookup_eq_some known)
        exact ⟨none, by simp [result], fun rest => by simp [result, newlyIssued, bound]⟩
      · exact ⟨none, by simp [result], fun rest => by simp [result, newlyIssued]⟩
      · have absent := Registry.lookup_eq_none_iff.mp unbound
        refine ⟨some ((registry.issue kind hint).1, kind), by rw [result]; rfl, fun rest => ?_⟩
        simp only [result, newlyIssued, if_neg absent]
        rfl

theorem Registry.serve_issued (registry : Registry) (requests : List Request) :
    (registry.serve requests).2.issued =
      (newlyIssued (registry.bound.map Prod.fst) (registry.serve requests).1).reverse ++
        registry.issued := by
  induction requests generalizing registry with
  | nil => rfl
  | cons request rest ih =>
      obtain ⟨fresh, issued, history⟩ := registry.answer_issued request
      have single : fresh.toList.reverse = fresh.toList := by cases fresh <;> rfl
      simp only [Registry.serve, history, ih, issued, List.reverse_append, single,
        List.append_assoc]

theorem Registry.serve_owned (registry : Registry) (requests : List Request) :
    (registry.serve requests).2.owned =
      ((registry.serve requests).1.filterMap Exchange.variable?).reverse ++ registry.owned := by
  induction requests generalizing registry with
  | nil => rfl
  | cons request rest ih =>
      simp only [Registry.serve, ih, List.filterMap_cons]
      cases request with
      | issue kind hint => rfl
      | issueVariable owner name => simp [Registry.answer, Exchange.variable?]; rfl
      | issueFor entity kind hint =>
          simp only [Registry.answer]
          rcases issueFor_cases entity kind hint registry with
            ⟨_, _, result⟩ | ⟨_, _, _, _, result⟩ | ⟨_, _, result⟩ <;>
          · rw [result]
            rfl

/-- What a call for an entity returns is bound to it from then on. -/
theorem Registry.lookup_of_mem_bindings {entity : Entity} {identifier : Identifier}
    (answered : (entity, identifier) ∈ bindings (registry.serve requests).1) :
    (registry.serve requests).2.lookup entity = some identifier := by
  induction requests generalizing registry with
  | nil => cases answered
  | cons request rest ih =>
      simp only [Registry.serve, bindings, List.filterMap_cons] at answered ⊢
      cases here : Exchange.binding? ⟨request, (registry.answer request).1⟩ with
      | none =>
          rw [here] at answered
          exact ih answered
      | some binding =>
          rw [here] at answered
          rcases List.mem_cons.mp answered with rfl | later
          · exact (Registry.serve_reaches _ rest).lookup_eq_some
              (Registry.lookup_of_binding here)
          · exact ih later

/-- Whatever a call leaves bound was bound before or is what the call returned. -/
theorem Registry.binding_of_lookup {request : Request} {entity : Entity} {identifier : Identifier}
    (bound : (registry.answer request).2.lookup entity = some identifier) :
    registry.lookup entity = some identifier ∨
      Exchange.binding? ⟨request, (registry.answer request).1⟩ = some (entity, identifier) := by
  cases request with
  | issue kind hint => exact .inl bound
  | issueVariable owner name => exact .inl bound
  | issueFor asked kind hint =>
      simp only [Registry.answer] at bound ⊢
      rcases issueFor_cases asked kind hint registry with
        ⟨_, _, result⟩ | ⟨_, _, _, _, result⟩ | ⟨_, _, result⟩
      · exact .inl (by rwa [result] at bound)
      · exact .inl (by rwa [result] at bound)
      · rw [result] at bound ⊢
        by_cases same : entity = asked
        · subst same
          have answered := List.lookup_cons_self.symm.trans bound
          exact .inr (congrArg (Option.map (Prod.mk entity)) answered)
        · have other : (entity == asked) = false := beq_eq_false_iff_ne.mpr same
          rw [Registry.lookup, List.lookup_cons, other] at bound
          exact .inl bound

theorem Registry.mem_bindings_of_lookup {entity : Entity} {identifier : Identifier}
    (bound : (registry.serve requests).2.lookup entity = some identifier) :
    registry.lookup entity = some identifier ∨
      (entity, identifier) ∈ bindings (registry.serve requests).1 := by
  induction requests generalizing registry with
  | nil => exact .inl bound
  | cons request rest ih =>
      simp only [Registry.serve, bindings, List.mem_filterMap, List.mem_cons]
      rcases ih bound with before | later
      · rcases Registry.binding_of_lookup before with earlier | answered
        · exact .inl earlier
        · exact .inr ⟨_, .inl rfl, answered⟩
      · obtain ⟨exchange, within, result⟩ := List.mem_filterMap.mp later
        exact .inr ⟨exchange, .inr within, result⟩

theorem Registry.serve_empty_bound (suffix : String) (strict : Bool) (requests : List Request)
    (entity : Entity) (identifier : Identifier) :
    ((Registry.empty suffix strict).serve requests).2.lookup entity = some identifier ↔
      (entity, identifier) ∈ bindings ((Registry.empty suffix strict).serve requests).1 := by
  refine ⟨fun found => ?_, Registry.lookup_of_mem_bindings⟩
  rcases Registry.mem_bindings_of_lookup found with initial | answered
  · cases initial
  · exact answered

theorem variablesFor_nodup {history : List Exchange}
    (distinct : (history.filterMap Exchange.variable?).Nodup) (owner : Identifier) :
    (variablesFor owner history).Nodup := by
  refine List.Nodup.map_on ?_ (distinct.filter _)
  intro first one second two equal
  have sameOwner := (List.mem_filter.mp one).2
  have otherOwner := (List.mem_filter.mp two).2
  rw [beq_iff_eq] at sameOwner otherOwner
  exact Prod.ext (sameOwner.trans otherOwner.symm) equal

theorem Registry.serve_empty_records (suffix : String) (strict : Bool)
    (requests : List Request) :
    ((Registry.empty suffix strict).serve requests).2.Records
      ((Registry.empty suffix strict).serve requests).1 := by
  have sound := ((Registry.empty suffix strict).serve_reaches requests).sound
    (Registry.empty_sound suffix strict)
  have issued : ((Registry.empty suffix strict).serve requests).2.issued =
      (newlyIssued [] ((Registry.empty suffix strict).serve requests).1).reverse := by
    simpa [Registry.empty] using (Registry.empty suffix strict).serve_issued requests
  have owned : ((Registry.empty suffix strict).serve requests).2.owned =
      (((Registry.empty suffix strict).serve requests).1.filterMap Exchange.variable?).reverse := by
    simpa [Registry.empty] using (Registry.empty suffix strict).serve_owned requests
  have bound := Registry.serve_empty_bound suffix strict requests
  have issuedOnce := sound.issuedDistinct
  rw [issued, List.map_reverse, List.nodup_reverse] at issuedOnce
  have ownedOnce := sound.ownedDistinct
  rw [owned, List.nodup_reverse] at ownedOnce
  exact {
    issuedOnce := issuedOnce
    counted := by rw [Registry.size, issued, List.length_reverse]
    contained := fun identifier => by
      rw [Registry.contains_iff, issued, List.map_reverse, List.mem_reverse]
    kinds := fun identifier => by rw [Registry.kindOf, issued, lookup_reverse issuedOnce]
    bound := bound
    boundOnce := fun entity first second one two =>
      Option.some.inj (((bound entity first).mpr one).symm.trans ((bound entity second).mpr two))
    boundApart := fun first second identifier one two =>
      sound.lookup_injective ((bound first identifier).mpr one) ((bound second identifier).mpr two)
    boundIssued := fun entity identifier found => sound.lookup_issued found
    settled := fun entity identifier found kind hint => by
      simp [Registry.answer, issueFor, found]
    ownedOnce := variablesFor_nodup ownedOnce }

theorem Registry.Reaches.kindOf {before after : Registry} {permitted : Entity → Prop}
    {identifier : Identifier} {kind : IdentifierKind} (reaches : before.Reaches permitted after)
    (sound : before.Sound) (issued : before.kindOf identifier = some kind) :
    after.kindOf identifier = some kind := by
  rw [Registry.kindOf, lookup_eq_some_iff_mem sound.issuedDistinct] at issued
  rw [Registry.kindOf, lookup_eq_some_iff_mem (reaches.sound sound).issuedDistinct]
  exact reaches.grows.issued.subset issued

/-- For any calls on a registry that had issued nothing, the registry records the whole history,
and any later calls leave every kind and every binding as it is. -/
theorem registry_records_every_call (suffix : String) (strict : Bool)
    (requests later : List Request) :
    let registry := ((Registry.empty suffix strict).serve requests).2
    registry.Records ((Registry.empty suffix strict).serve requests).1 ∧
      (∀ identifier kind, registry.kindOf identifier = some kind →
        (registry.serve later).2.kindOf identifier = some kind) ∧
      (∀ entity identifier, registry.lookup entity = some identifier →
        (registry.serve later).2.lookup entity = some identifier) := by
  intro registry
  have sound := ((Registry.empty suffix strict).serve_reaches requests).sound
    (Registry.empty_sound suffix strict)
  have reaches := registry.serve_reaches later
  refine ⟨Registry.serve_empty_records suffix strict requests, ?_, ?_⟩
  · intro identifier kind issued
    exact reaches.kindOf sound issued
  · intro entity identifier found
    exact reaches.lookup_eq_some found

end QuizPackage
