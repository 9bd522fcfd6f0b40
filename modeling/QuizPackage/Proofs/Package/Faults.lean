import QuizPackage.Proofs.Package.Acceptance
import QuizPackage.Proofs.Package.Accounting
import QuizPackage.Proofs.Package.Items
import QuizPackage.Proofs.Package.Words

/-!
# Damaged packages

A generated package has every path as often as its manifest lists it, apart from that of the
manifest itself. A single file or resource that is lost, copied or moved upsets this balance, which
every package that is accepted has.
-/

namespace QuizPackage

variable {α : Type} {old new before after : List α} {quiz : Quiz} {assets : AssetMap}
  {options : Options} {shuffle : Bool} {writer : Writer} {package damaged : Package}
  {planned damagedPlan : Plan} {resource : Resource} {path : String}

/-- A list is as it was before, but for one part. -/
def Replaces (old new before after : List α) : Prop :=
  ∃ front back, before = front ++ old ++ back ∧ after = front ++ new ++ back

theorem Replaces.mem {single : α} (replaces : Replaces [single] new before after) :
    single ∈ before := by
  obtain ⟨front, back, rfl, _⟩ := replaces
  simp

theorem Replaces.count (replaces : Replaces old new before after) (key : α → String)
    (path : String) :
    (after.map key).count path + (old.map key).count path =
      (before.map key).count path + (new.map key).count path := by
  obtain ⟨front, back, rfl, rfl⟩ := replaces
  simp only [List.map_append, List.count_append]
  omega

theorem Replaces.count_lost {single : α} (lost : Replaces [single] [] before after)
    (key : α → String) :
    (before.map key).count (key single) = (after.map key).count (key single) + 1 := by
  simpa using (lost.count key (key single)).symm

theorem Replaces.count_copied {single : α} (copied : Replaces [] [single] before after)
    (key : α → String) :
    (after.map key).count (key single) = (before.map key).count (key single) + 1 := by
  simpa using copied.count key (key single)

/-- What moves is missing where it was, and added where it is now. -/
theorem Replaces.count_moved {single moved : α} (replaces : Replaces [single] [moved] before after)
    (key : α → String) (other : key moved ≠ key single) :
    (before.map key).count (key single) = (after.map key).count (key single) + 1 ∧
      (after.map key).count (key moved) = (before.map key).count (key moved) + 1 := by
  constructor
  · simpa [other] using (replaces.count key (key single)).symm
  · simpa [other.symm] using replaces.count key (key moved)

/-- A package has a path as often as the manifest of a plan lists it. -/
def Package.Balanced (package : Package) (planned : Plan) (path : String) : Prop :=
  (package.documents.map Document.path).count path +
      (package.assets.map AssetFile.path).count path =
    (planned.manifest.resources.map Resource.href).count path

theorem Package.count_paths (package : Package) (path : String) :
    package.paths.count path = (package.documents.map Document.path).count path +
      (package.assets.map AssetFile.path).count path := by
  rw [Package.paths, List.count_append]

theorem Resource.LeadsInto.path_mem (leads : resource.LeadsInto package) :
    resource.href ∈ package.paths := by
  obtain ⟨test, item, single⟩ := Resource.leadsInto_iff.mp leads
  cases kind : resource.kind with
  | test =>
      obtain ⟨document, member, _, _, path⟩ := test kind
      exact path ▸ List.mem_append_left _ (List.mem_map_of_mem member)
  | item =>
      obtain ⟨document, member, _, _, path⟩ := item kind
      exact path ▸ List.mem_append_left _ (List.mem_map_of_mem member)
  | asset =>
      obtain ⟨asset, member, path⟩ := single kind
      exact path ▸ List.mem_append_right _ (List.mem_map_of_mem member)

/-- An intact package has every path as often as its manifest lists it. -/
theorem Package.Intact.balanced (intact : package.Intact planned) (other : path ≠ manifestPath) :
    package.Balanced planned path := by
  rw [Package.Balanced, ← Package.count_paths]
  by_cases member : path ∈ package.paths
  · rw [List.count_eq_one_of_mem intact.pathsDistinct member, Manifest.count_hrefs,
      intact.listedOnce path member other]
  · rw [List.count_eq_zero.mpr member, eq_comm, List.count_eq_zero]
    intro listed
    obtain ⟨resource, inside, rfl⟩ := List.mem_map.mp listed
    exact member (intact.resourcesResolve resource inside).path_mem

theorem checkIntegrity_of_unbalanced (other : path ≠ manifestPath)
    (unbalanced : ¬package.Balanced planned path) :
    ∃ fault, checkIntegrity package planned = .error (.integrity fault) := by
  cases faulty : package.fault? planned with
  | none => exact absurd ((Package.fault?_eq_none_iff.mp faulty).balanced other) unbalanced
  | some fault => exact ⟨fault, by rw [checkIntegrity, faulty]⟩

theorem generate_accepted (ran : generate writer options quiz assets = .ok package) :
    ∃ planned, plan options quiz assets = .ok planned ∧
      checkIntegrity package planned = .ok () ∧ package = writer.package planned quiz assets := by
  obtain ⟨planned, made, rfl⟩ := generate_ok ran
  refine ⟨planned, made, ?_, rfl⟩
  exact checkIntegrity_of_intact
    ((plan_ok made).intact_of_written writer ((generate_ok_iff writer made).mp ran))

/-- One thing that happens to a package and its plan: a document, an asset or a resource is lost or
copied, or a document or an asset moves. The manifest can only move. -/
inductive Package.Damage (package : Package) (planned : Plan) : Package → Plan → Prop
  | documentLost {document : Document} {documents : List Document}
      (other : document.kind ≠ .manifest)
      (lost : Replaces [document] [] package.documents documents) :
      Damage package planned { package with documents } planned
  | documentCopied {document : Document} {documents : List Document}
      (other : document.kind ≠ .manifest) (held : document ∈ package.documents)
      (copied : Replaces [] [document] package.documents documents) :
      Damage package planned { package with documents } planned
  | documentMoved {document : Document} {documents : List Document} {path : String}
      (other : path ≠ document.path)
      (moved : Replaces [document] [{ document with path }] package.documents documents) :
      Damage package planned { package with documents } planned
  | assetLost {asset : AssetFile} {assets : List AssetFile}
      (lost : Replaces [asset] [] package.assets assets) :
      Damage package planned { package with assets } planned
  | assetCopied {asset : AssetFile} {assets : List AssetFile} (held : asset ∈ package.assets)
      (copied : Replaces [] [asset] package.assets assets) :
      Damage package planned { package with assets } planned
  | assetMoved {asset : AssetFile} {assets : List AssetFile} {path : String}
      (other : path ≠ asset.path)
      (moved : Replaces [asset] [{ asset with path }] package.assets assets) :
      Damage package planned { package with assets } planned
  | resourceLost {resource : Resource} {resources : List Resource}
      (lost : Replaces [resource] [] planned.manifest.resources resources) :
      Damage package planned package
        { planned with manifest := { planned.manifest with resources } }
  | resourceCopied {resource : Resource} {resources : List Resource}
      (listed : resource ∈ planned.manifest.resources)
      (copied : Replaces [] [resource] planned.manifest.resources resources) :
      Damage package planned package
        { planned with manifest := { planned.manifest with resources } }

/-- Nothing but the manifest lies at its path. -/
structure Package.ManifestApart (package : Package) (planned : Plan) : Prop where
  documents : ∀ document ∈ package.documents, document.kind ≠ .manifest →
    document.path ≠ manifestPath
  assets : ∀ asset ∈ package.assets, asset.path ≠ manifestPath
  resources : ∀ resource ∈ planned.manifest.resources, resource.href ≠ manifestPath

theorem Plan.BuiltFrom.manifestApart (built : planned.BuiltFrom quiz assets shuffle)
    (writer : Writer) : (writer.package planned quiz assets).ManifestApart planned := by
  obtain ⟨paths, distinct⟩ := built.paths writer
  have resources : manifestPath ∉ planned.manifest.resources.map Resource.href :=
    (List.nodup_cons.mp (paths ▸ distinct)).1
  have files : (writer.package planned quiz assets).paths.tail =
      planned.manifest.resources.map Resource.href := congrArg List.tail paths
  refine ⟨fun document member other path => ?_, fun asset member path => ?_,
    fun resource listed path => resources (path ▸ List.mem_map_of_mem listed)⟩
  · rcases List.mem_cons.mp member with rfl | member
    · exact other rfl
    · refine resources (files ▸ List.mem_append_left _ ?_)
      exact path ▸ List.mem_map_of_mem member
  · refine resources (files ▸ List.mem_append_right _ ?_)
    exact path ▸ List.mem_map_of_mem member

/-- Damage changes how often a path is there, or how often it is listed, but not both. -/
theorem Package.Damage.unbalances (damage : package.Damage planned damaged damagedPlan)
    (apart : package.ManifestApart planned) :
    ∃ path, path ≠ manifestPath ∧
      (package.Balanced planned path → ¬damaged.Balanced damagedPlan path) := by
  cases damage <;> simp only [Package.Balanced]
  case documentLost document documents other lost =>
    refine ⟨document.path, apart.documents document lost.mem other, ?_⟩
    have counted := lost.count_lost Document.path
    omega
  case documentCopied document documents other held copied =>
    refine ⟨document.path, apart.documents document held other, ?_⟩
    have counted := copied.count_copied Document.path
    omega
  case documentMoved document documents path other moved =>
    obtain ⟨missing, added⟩ := moved.count_moved Document.path other
    dsimp only at added
    by_cases manifest : document.path = manifestPath
    · refine ⟨path, fun same => other (same.trans manifest.symm), ?_⟩
      omega
    · refine ⟨document.path, manifest, ?_⟩
      omega
  case assetLost asset files lost =>
    refine ⟨asset.path, apart.assets asset lost.mem, ?_⟩
    have counted := lost.count_lost AssetFile.path
    omega
  case assetCopied asset files held copied =>
    refine ⟨asset.path, apart.assets asset held, ?_⟩
    have counted := copied.count_copied AssetFile.path
    omega
  case assetMoved asset files path other moved =>
    refine ⟨asset.path, apart.assets asset moved.mem, ?_⟩
    obtain ⟨missing, _⟩ := moved.count_moved AssetFile.path other
    omega
  case resourceLost resource resources lost =>
    refine ⟨resource.href, apart.resources resource lost.mem, ?_⟩
    have counted := lost.count_lost Resource.href
    omega
  case resourceCopied resource resources listed copied =>
    refine ⟨resource.href, apart.resources resource listed, ?_⟩
    have counted := copied.count_copied Resource.href
    omega

/-- A generated package is accepted, but not with a single document, asset or resource lost or
copied, or with a document or an asset at another path. -/
theorem generated_package_shows_damage (ran : generate writer options quiz assets = .ok package) :
    ∃ planned, plan options quiz assets = .ok planned ∧
      checkIntegrity package planned = .ok () ∧
      ∀ damaged damagedPlan, package.Damage planned damaged damagedPlan →
        ∃ fault, checkIntegrity damaged damagedPlan = .error (.integrity fault) := by
  obtain ⟨planned, made, accepted, rfl⟩ := generate_accepted ran
  refine ⟨planned, made, accepted, fun damaged damagedPlan damage => ?_⟩
  obtain ⟨path, other, unbalanced⟩ := damage.unbalances ((plan_ok made).manifestApart writer)
  have balanced := (checkIntegrity_eq_ok_iff.mp accepted).balanced other
  exact checkIntegrity_of_unbalanced other (unbalanced balanced)

theorem voyage_shows_lost_chart :
    ∃ package planned, generate Format.qti30.writer ⟨false, "", false⟩ voyage charts = .ok package ∧
      plan ⟨false, "", false⟩ voyage charts = .ok planned ∧
      checkIntegrity package planned = .ok () ∧
      package.assets.map AssetFile.path = ["assets/chart.png"] ∧
      ∃ fault,
        checkIntegrity { package with assets := [] } planned = .error (.integrity fault) := by
  have computed : (plan ⟨false, "", false⟩ voyage charts).toOption.map (fun planned =>
      ((planned.manifest.resourcesOf .asset).filterMap (Resource.assetFile? charts)).map
        AssetFile.path) = some ["assets/chart.png"] := by
    decide +kernel
  obtain ⟨planned, made, paths⟩ := plan_observed _ computed
  have ran := generate_format .qti30 made
  obtain ⟨same, again, accepted, shown⟩ := generated_package_shows_damage ran
  rw [made] at again
  cases again
  refine ⟨_, planned, ran, made, accepted, paths, ?_⟩
  obtain ⟨asset, single, _⟩ := List.map_eq_singleton_iff.mp paths
  exact shown _ _ (.assetLost ⟨[], [], single, rfl⟩)

end QuizPackage
