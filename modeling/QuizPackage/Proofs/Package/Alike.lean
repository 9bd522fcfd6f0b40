import QuizPackage.Proofs.Package.Accounting
import QuizPackage.Proofs.Package.Suffix
import QuizPackage.Proofs.Package.Words
import QuizPackage.Proofs.Page.Lines
import Mathlib.Data.Set.Function

namespace QuizPackage

/-- Two packages have documents of the same kinds in the same order, with as many references and
lines, and the same assets. -/
structure Package.Alike (package other : Package) : Prop where
  kinds : package.documents.map Document.kind = other.documents.map Document.kind
  references : package.documents.map (fun document => document.references.length) =
    other.documents.map fun document => document.references.length
  lines : package.documents.map (fun document => Text.lineCount document.body) =
    other.documents.map fun document => Text.lineCount document.body
  assets : package.assets = other.assets

/-- Identifiers that a registry has issued, for the package or as variables. -/
def Registry.Names (registry : Registry) (identifier : Identifier) : Prop :=
  registry.contains identifier = true ∨ ∃ owner, registry.isVariableOf owner identifier = true

/-- A naming leads from the identifiers of a registry to those that another makes of the same bases.
It keeps the names of variables, and no two identifiers become one. -/
structure Registry.Resuffixed (naming : Identifier → Identifier) (registry other : Registry) :
    Prop where
  bases : other.bases = registry.bases
  issued : ∀ base ∈ registry.bases, naming (registry.identifier base) = other.identifier base
  owned : ∀ owner name, registry.isVariableOf owner name = true → naming name = name
  injective : Set.InjOn naming { identifier | registry.Names identifier }

variable {naming first second : Identifier → Identifier} {registry other : Registry}
  {identifier owner name : Identifier} {options : Options} {quiz : Quiz} {assets : AssetMap}
  {planned : Plan} {suffix : String}

theorem Registry.Sound.variable_suffixed (sound : registry.Sound)
    (owned : registry.isVariableOf owner name = true) (suffix : String) :
    name.suffixed suffix = name :=
  Identifier.suffixed_of_isCapital
    (sound.ownedShaped _ (Registry.isVariableOf_iff.mp owned)).isCapital_eq_true

/-- Whatever a registry has issued has its suffix, if it is to have one. -/
theorem Registry.Sound.names_suffixed (sound : registry.Sound)
    (known : registry.Names identifier) :
    identifier ∈ Set.range (Identifier.suffixed registry.suffix) := by
  rcases known with issued | ⟨owner, owned⟩
  · obtain ⟨base, taken, rfl⟩ := sound.exists_base issued
    exact ⟨⟨base⟩, (registry.identifier_eq_suffixed (sound.basesShaped base taken)).symm⟩
  · exact ⟨identifier, sound.variable_suffixed owned _⟩

theorem Identifier.resuffixed_injOn (first second : String) :
    Set.InjOn (Identifier.resuffixed first second) (Set.range (Identifier.suffixed first)) := by
  rintro _ ⟨left, rfl⟩ _ ⟨right, rfl⟩ equal
  rw [Identifier.resuffixed_suffixed, Identifier.resuffixed_suffixed] at equal
  rw [Identifier.suffixed_injective second equal]

theorem Registry.Sound.resuffixed (sound : registry.Sound) (suffix : String) :
    registry.Resuffixed (Identifier.resuffixed registry.suffix suffix)
      (registry.rename (Identifier.resuffixed registry.suffix suffix) suffix) where
  bases := rfl
  issued := by
    intro base taken
    have shaped := sound.basesShaped base taken
    rw [Registry.identifier_eq_suffixed _ shaped, Identifier.resuffixed_suffixed,
      Registry.identifier_eq_suffixed _ shaped]
    rfl
  owned := by
    intro owner name owned
    have same := Identifier.resuffixed_suffixed registry.suffix suffix name
    rwa [sound.variable_suffixed owned, sound.variable_suffixed owned] at same
  injective := (Identifier.resuffixed_injOn _ _).mono fun _ known => sound.names_suffixed known

/-- Registries with different suffixes of one length issue no identifier in common. -/
theorem Registry.Sound.apart (sound : registry.Sound) (otherSound : other.Sound)
    (differ : registry.suffix ≠ other.suffix)
    (even : registry.suffix.length = other.suffix.length)
    (issued : registry.contains identifier = true) : other.contains identifier = false := by
  by_contra both
  rw [Bool.not_eq_false] at both
  obtain ⟨base, _, rfl⟩ := sound.exists_base issued
  obtain ⟨otherBase, _, equal⟩ := otherSound.exists_base both
  have filled : ∀ front back : String, front ≠ back → front.length = back.length → front ≠ "" := by
    rintro front back apart same rfl
    exact apart (String.length_eq_zero_iff.mp same.symm).symm
  have one := filled _ _ differ even
  have two := filled _ _ differ.symm even.symm
  simp only [Registry.identifier, beq_iff_eq, one, two, if_false, Identifier.mk.injEq,
    ← String.toList_inj, String.toList_append] at equal
  refine differ (String.toList_inj.mp (List.append_inj_right' equal ?_))
  rw [String.length_toList, String.length_toList, even]

theorem not_mem_sanitize (hint : String) : '\n' ∉ (sanitize hint).toList := by
  intro member
  exact absurd (isBaseChar_of_mem_sanitize member) (by decide)

theorem Identifier.lineFeeds_suffixed (flat : '\n' ∉ suffix.toList) (identifier : Identifier) :
    Text.lineFeeds (identifier.suffixed suffix).text = Text.lineFeeds identifier.text := by
  unfold Identifier.suffixed
  split
  · rfl
  · have line : Text.lineFeeds "_" = 0 := rfl
    have ending : Text.lineFeeds suffix = 0 := List.count_eq_zero_of_not_mem flat
    rw [Text.lineFeeds_append, Text.lineFeeds_append, line, ending, Nat.add_zero]

theorem Identifier.suffixed_sameFeeds (first second : String) :
    SameFeeds (Identifier.suffixed (sanitize first)) (Identifier.suffixed (sanitize second)) := by
  intro identifier
  rw [Identifier.lineFeeds_suffixed (not_mem_sanitize first),
    Identifier.lineFeeds_suffixed (not_mem_sanitize second)]

theorem Resource.assetFile?_rename (resource : Resource) (listed : resource.kind = .asset) :
    (resource.rename naming).assetFile? assets = resource.assetFile? assets := by
  have same : (resource.rename naming).href = resource.href := by
    simp [Resource.rename, Resource.renamedHref, listed]
  rw [Resource.assetFile?, Resource.assetFile?, same]

theorem Manifest.assetFiles_rename (manifest : Manifest) :
    ((manifest.rename naming).resourcesOf .asset).filterMap (Resource.assetFile? assets) =
      (manifest.resourcesOf .asset).filterMap (Resource.assetFile? assets) := by
  have kept : (manifest.rename naming).resourcesOf .asset =
      (manifest.resourcesOf .asset).map (Resource.rename naming) := by
    simp [Manifest.resourcesOf, Manifest.rename, List.filter_map, Function.comp_def,
      Resource.rename]
  rw [kept, List.filterMap_map]
  refine List.filterMap_congr fun resource member => ?_
  exact resource.assetFile?_rename (by simpa using (List.mem_filter.mp member).2)

/-- The packages of a plan under two injective namings are alike. -/
theorem Plan.package_alike (planned : Plan) (same : SameFeeds first second)
    (firstInjective : Function.Injective first) (secondInjective : Function.Injective second)
    (format : Format) (quiz : Quiz) (assets : AssetMap) (suffix other : String) :
    (format.writer.package (planned.rename first suffix) quiz assets).Alike
      (format.writer.package (planned.rename second other) quiz assets) where
  kinds := by simp [Writer.package, Plan.rename, Function.comp_def, Writer.manifestDocument,
    Writer.testDocument, Writer.itemDocument]
  references := by simp [Writer.package, Plan.rename, Function.comp_def, Writer.manifestDocument,
    Writer.testDocument, Writer.itemDocument, Manifest.length_references_rename,
    Test.length_references_rename, Item.length_references_rename, firstInjective, secondInjective]
  lines := by simp [Writer.package, Plan.rename, Function.comp_def, Writer.manifestDocument,
    Writer.testDocument, Writer.itemDocument, Format.writer, Manifest.lineCount_rename same,
    Test.lineCount_rename same, Item.lineCount_rename same]
  assets := (Manifest.assetFiles_rename _).trans (Manifest.assetFiles_rename _).symm

theorem buildAll_within (quiz : Quiz) (assets : AssetMap) (shuffle : Bool) :
    (buildAll quiz assets shuffle).Within fun _ => True := by
  refine ((buildItems_within quiz shuffle).mono fun _ _ => trivial).bind fun items => ?_
  refine ((buildTest_within quiz).mono fun _ _ => trivial).bind fun test => ?_
  refine ((buildManifest_within quiz test items assets).mono fun _ _ => trivial).bind
    fun manifest => ?_
  exact .pure _

/-- The registry that planning leaves, whether it succeeds or not. -/
def planningLeaves (options : Options) (quiz : Quiz) (assets : AssetMap) : Registry :=
  (buildAll quiz assets options.shuffle).finish (Registry.empty options.suffix options.strict)

theorem planningLeaves_of_ok (made : plan options quiz assets = .ok planned) :
    planningLeaves options quiz assets = planned.registry := by
  unfold planningLeaves Issuing.finish
  unfold plan at made
  cases ran : buildAll quiz assets options.shuffle
      (Registry.empty options.suffix options.strict) with
  | ok documents registry =>
      rw [ran] at made
      cases made
      rfl
  | error problem registry =>
      rw [ran] at made
      cases made

theorem planningLeaves_sound (options : Options) (quiz : Quiz) (assets : AssetMap) :
    (planningLeaves options quiz assets).Sound :=
  (buildAll_within quiz assets options.shuffle _).sound (Registry.empty_sound _ _)

theorem planningLeaves_suffix (options : Options) (quiz : Quiz) (assets : AssetMap) :
    (planningLeaves options quiz assets).suffix = sanitize options.suffix :=
  (buildAll_within quiz assets options.shuffle _).grows.suffix

/-- Runs with different suffixes of one length issue no identifier in common. -/
theorem planningLeaves_apart (differ : sanitize options.suffix ≠ sanitize suffix)
    (even : (sanitize options.suffix).length = (sanitize suffix).length)
    (issued : (planningLeaves options quiz assets).contains identifier = true) :
    (planningLeaves { options with suffix := suffix } quiz assets).contains identifier = false := by
  refine (planningLeaves_sound options quiz assets).apart (planningLeaves_sound _ _ _) ?_ ?_ issued
  · rw [planningLeaves_suffix, planningLeaves_suffix]
    exact differ
  · rw [planningLeaves_suffix, planningLeaves_suffix]
    exact even

/-- A plan with any suffix is a plan without one, renamed, and so is the plan with another. -/
theorem plan_bare (made : plan options quiz assets = .ok planned) (suffix : String) :
    ∃ bare : Plan,
      planned = bare.rename (Identifier.suffixed (sanitize options.suffix))
        (sanitize options.suffix) ∧
      plan { options with suffix := suffix } quiz assets =
        .ok (bare.rename (Identifier.suffixed (sanitize suffix)) (sanitize suffix)) := by
  have plainly := plan_suffixed options quiz assets
  have others := plan_suffixed { options with suffix := suffix } quiz assets
  dsimp only at others
  rw [made] at plainly
  cases ran : plan { options with suffix := "" } quiz assets with
  | ok bare =>
      rw [ran] at plainly others
      exact ⟨bare, Except.ok.inj plainly, others⟩
  | error problem =>
      rw [ran] at plainly
      cases plainly

/-- The packages that come of a quiz with two suffixes are alike. -/
theorem generate_alike (made : plan options quiz assets = .ok planned) (suffix : String)
    (format : Format) :
    ∃ package other, generate format.writer options quiz assets = .ok package ∧
      generate format.writer { options with suffix := suffix } quiz assets = .ok other ∧
      package.Alike other := by
  obtain ⟨bare, rfl, again⟩ := plan_bare made suffix
  refine ⟨_, _, generate_format format made, generate_format format again, ?_⟩
  exact bare.package_alike (Identifier.suffixed_sameFeeds _ _) (Identifier.suffixed_injective _)
    (Identifier.suffixed_injective _) format quiz assets _ _

theorem plan_registry_resuffixed (made : plan options quiz assets = .ok planned)
    (suffix : String) :
    planned.registry.Resuffixed (Identifier.resuffixed (sanitize options.suffix) suffix)
      (planned.registry.rename (Identifier.resuffixed (sanitize options.suffix) suffix)
        suffix) := by
  have ending : planned.registry.suffix = sanitize options.suffix := by
    rw [← planningLeaves_of_ok made, planningLeaves_suffix]
  rw [← ending]
  exact (plan_ok made).sound.resuffixed suffix

/-- Whether a quiz can be planned does not depend on the suffix, nor does why it cannot. Two plans
are equal up to the suffix of each identifier, and their packages are alike. With suffixes of one
length the runs issue no identifier in common, whether they succeed or not. -/
theorem plans_differ_by_suffix (options : Options) (suffix : String) (quiz : Quiz)
    (assets : AssetMap) :
    let others := { options with suffix := suffix }
    let naming := Identifier.resuffixed (sanitize options.suffix) (sanitize suffix)
    (∀ problem, plan options quiz assets = .error problem →
      plan others quiz assets = .error (problem.rename naming) ∧
        (problem.rename naming).kind = problem.kind ∧
        (problem.rename naming).location? = problem.location?) ∧
    (∀ planned, plan options quiz assets = .ok planned →
      plan others quiz assets = .ok (planned.rename naming (sanitize suffix)) ∧
        planned.registry.Resuffixed naming (planned.registry.rename naming (sanitize suffix)) ∧
        ∀ format : Format, ∃ package other,
          generate format.writer options quiz assets = .ok package ∧
          generate format.writer others quiz assets = .ok other ∧ package.Alike other) ∧
    (sanitize options.suffix ≠ sanitize suffix →
      (sanitize options.suffix).length = (sanitize suffix).length →
      ∀ identifier, (planningLeaves options quiz assets).contains identifier = true →
        (planningLeaves others quiz assets).contains identifier = false) := by
  refine ⟨fun problem failed => ⟨plan_error_resuffixed failed suffix, ?_, ?_⟩,
    fun planned made => ⟨plan_ok_resuffixed made suffix, ?_, generate_alike made suffix⟩,
    fun differ even identifier issued => planningLeaves_apart differ even issued⟩
  · exact problem.kind_rename
  · exact problem.location?_rename
  · exact plan_registry_resuffixed made (sanitize suffix)

theorem voyage_planned_with_two_suffixes :
    ∃ planned other, plan ⟨false, "1a2b3c4d", false⟩ voyage charts = .ok planned ∧
      plan ⟨false, "5e6f7a8b", false⟩ voyage charts = .ok other ∧
      planned.test.items = [⟨⟨"light_1a2b3c4d"⟩, "../items/light_1a2b3c4d.xml"⟩,
        ⟨⟨"text_1a2b3c4d"⟩, "../items/text_1a2b3c4d.xml"⟩] ∧
      other.test.items = [⟨⟨"light_5e6f7a8b"⟩, "../items/light_5e6f7a8b.xml"⟩,
        ⟨⟨"text_5e6f7a8b"⟩, "../items/text_5e6f7a8b.xml"⟩] ∧
      (∀ identifier, planned.registry.contains identifier = true →
        other.registry.contains identifier = false) ∧
      ∃ package otherPackage,
        generate Format.qti21.writer ⟨false, "1a2b3c4d", false⟩ voyage charts = .ok package ∧
        generate Format.qti21.writer ⟨false, "5e6f7a8b", false⟩ voyage charts =
          .ok otherPackage ∧
        package.Alike otherPackage := by
  have computed : (plan ⟨false, "1a2b3c4d", false⟩ voyage charts).toOption.map
      (fun planned => planned.test.items) =
        some [⟨⟨"light_1a2b3c4d"⟩, "../items/light_1a2b3c4d.xml"⟩,
          ⟨⟨"text_1a2b3c4d"⟩, "../items/text_1a2b3c4d.xml"⟩] := by
    decide +kernel
  obtain ⟨planned, made, items⟩ := plan_observed _ computed
  obtain ⟨_, succeeds, apart⟩ :=
    plans_differ_by_suffix ⟨false, "1a2b3c4d", false⟩ "5e6f7a8b" voyage charts
  obtain ⟨again, _, packages⟩ := succeeds planned made
  refine ⟨planned, _, made, again, items, ?_, fun identifier issued => ?_, packages .qti21⟩
  · rw [Plan.rename, Test.items_rename, items]
    decide +kernel
  · rw [← planningLeaves_of_ok again]
    rw [← planningLeaves_of_ok made] at issued
    exact apart (by decide +kernel) (by decide +kernel) identifier issued

end QuizPackage
