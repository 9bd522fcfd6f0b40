import QuizPackage.Package.Integrity
import QuizPackage.Proofs.Text.Ascending
import Mathlib.Data.List.Nodup

namespace QuizPackage

/-- A resource stands for a document of its kind or for an asset, which lies where it says. -/
def Resource.LeadsInto (package : Package) (resource : Resource) : Prop :=
  match resource.kind with
  | .test => ∃ document ∈ package.documentsOf .test,
      document.identifier = resource.identifier ∧ document.path = resource.href
  | .item => ∃ document ∈ package.documentsOf .item,
      document.identifier = resource.identifier ∧ document.path = resource.href
  | .asset => ∃ asset ∈ package.assets, asset.path = resource.href

/-- A package that holds together with its plan. -/
structure Package.Intact (package : Package) (plan : Plan) : Prop where
  pathsDistinct : package.paths.Nodup
  issued : ∀ document ∈ package.documents, ∀ name ∈ document.references,
    plan.registry.isIssuedFor document.identifier name = true
  written : ∀ document ∈ package.documents, ∀ name ∈ document.references,
    Text.contains document.body name.text = true
  itemsResolve : ∀ reference ∈ plan.test.items, reference.href = itemHref reference.identifier ∧
    ∃ document ∈ package.documentsOf .item, document.identifier = reference.identifier
  resourcesResolve : ∀ resource ∈ plan.manifest.resources, resource.LeadsInto package
  dependenciesResolve : ∀ resource ∈ plan.manifest.resources,
    ∀ dependency ∈ resource.dependencies,
      ∃ needed ∈ plan.manifest.resources, needed.identifier = dependency
  listedOnce : ∀ path ∈ package.paths, path ≠ manifestPath →
    plan.manifest.resources.countP (fun resource => resource.href == path) = 1

variable {package : Package} {plan : Plan}

theorem repeatedPath?_eq_none_iff {seen paths : List String} :
    repeatedPath? seen paths = none ↔ paths.Nodup ∧ ∀ path ∈ paths, path ∉ seen := by
  induction paths generalizing seen with
  | nil => simp [repeatedPath?]
  | cons path rest ih =>
      by_cases repeated : path ∈ seen
      · simp [repeatedPath?, repeated]
      · simp only [repeatedPath?, List.contains_eq_mem, repeated, decide_false, Bool.false_eq_true,
          if_false, ih, List.mem_cons, not_or, List.nodup_cons, forall_eq_or_imp]
        constructor
        · rintro ⟨distinct, fresh⟩
          exact ⟨⟨fun member => (fresh path member).1 rfl, distinct⟩,
            not_false, fun other member => (fresh other member).2⟩
        · rintro ⟨⟨absent, distinct⟩, _, fresh⟩
          refine ⟨distinct, fun other member => ⟨?_, fresh other member⟩⟩
          rintro rfl
          exact absent member

theorem Document.fault?_eq_none_iff {registry : Registry} {document : Document} :
    document.fault? registry = none ↔ ∀ name ∈ document.references,
      registry.isIssuedFor document.identifier name = true ∧
      Text.contains document.body name.text = true := by
  rw [Document.fault?, List.findSome?_eq_none_iff]
  refine forall₂_congr fun name _ => ?_
  cases registry.isIssuedFor document.identifier name <;>
    cases Text.contains document.body name.text <;> simp

theorem Test.fault?_eq_none_iff {test : Test} :
    test.fault? package = none ↔ ∀ reference ∈ test.items,
      reference.href = itemHref reference.identifier ∧
      ∃ document ∈ package.documentsOf .item, document.identifier = reference.identifier := by
  simp [Test.fault?, ItemReference.resolves]

theorem Resource.resolves_iff {resource : Resource} :
    resource.resolves package = true ↔ resource.LeadsInto package := by
  unfold Resource.resolves Resource.LeadsInto Resource.isDocument
  cases resource.kind <;> simp

theorem Resource.fault?_eq_none_iff {manifest : Manifest} {resource : Resource} :
    resource.fault? package manifest = none ↔ resource.LeadsInto package ∧
      ∀ dependency ∈ resource.dependencies,
        ∃ needed ∈ manifest.resources, needed.identifier = dependency := by
  rw [← Resource.resolves_iff]
  unfold Resource.fault?
  cases resource.resolves package
  · simp
  · simp [Manifest.resource?]

theorem Manifest.listingFault?_eq_none_iff {manifest : Manifest} {path : String} :
    manifest.listingFault? path = none ↔ (path ≠ manifestPath →
      manifest.resources.countP (fun resource => resource.href == path) = 1) := by
  unfold Manifest.listingFault?
  by_cases own : path = manifestPath
  · simp [own]
  · simp only [beq_iff_eq, own, if_false, ne_eq, not_false_eq_true, forall_const]
    generalize manifest.resources.countP (fun resource => resource.href == path) = times
    match times with
    | 0 => simp
    | 1 => simp
    | more + 2 => simp

/-- No fault is found in a package exactly if it is intact. -/
theorem Package.fault?_eq_none_iff : package.fault? plan = none ↔ package.Intact plan := by
  simp only [Package.fault?, Option.orElse_eq_orElse, Option.orElse_eq_or, Option.or_eq_none_iff,
    Option.map_eq_none_iff, repeatedPath?_eq_none_iff, List.not_mem_nil, not_false_eq_true,
    implies_true, and_true, List.findSome?_eq_none_iff, Document.fault?_eq_none_iff,
    Test.fault?_eq_none_iff, Resource.fault?_eq_none_iff, Manifest.listingFault?_eq_none_iff,
    Text.mem_ascending]
  constructor
  · rintro ⟨distinct, documents, items, resources, listed⟩
    exact {
      pathsDistinct := distinct
      issued := fun document member name inside => (documents document member name inside).1
      written := fun document member name inside => (documents document member name inside).2
      itemsResolve := items
      resourcesResolve := fun resource member => (resources resource member).1
      dependenciesResolve := fun resource member => (resources resource member).2
      listedOnce := listed }
  · intro intact
    exact ⟨intact.pathsDistinct,
      fun document member name inside =>
        ⟨intact.issued document member name inside, intact.written document member name inside⟩,
      intact.itemsResolve,
      fun resource member =>
        ⟨intact.resourcesResolve resource member, intact.dependenciesResolve resource member⟩,
      intact.listedOnce⟩

theorem checkIntegrity_eq_ok_iff : checkIntegrity package plan = .ok () ↔ package.Intact plan := by
  rw [← Package.fault?_eq_none_iff, checkIntegrity]
  cases package.fault? plan <;> simp

theorem checkIntegrity_of_intact (intact : package.Intact plan) :
    checkIntegrity package plan = .ok () :=
  checkIntegrity_eq_ok_iff.mpr intact

end QuizPackage
