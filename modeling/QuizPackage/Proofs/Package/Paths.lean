import QuizPackage.Proofs.Command.Trial
import QuizPackage.Proofs.Command.Writing
import QuizPackage.Proofs.Package.Acceptance
import QuizPackage.Proofs.Package.Assets
import QuizPackage.Proofs.Package.Strictness

namespace QuizPackage

/-- The paths of a package: those of the manifest, the test, the items and the listed assets. -/
inductive Plan.HasPath (planned : Plan) (quiz : Quiz) : String → Prop
  | manifest : HasPath planned quiz manifestPath
  | test : HasPath planned quiz (testPath planned.test.identifier)
  | item {item : Item} (inside : item ∈ planned.items) :
      HasPath planned quiz (itemPath item.identifier)
  | asset {name : String} (listed : name ∈ quiz.assets) : HasPath planned quiz (assetPath name)

/-- The parts of the paths that are not of assets. -/
inductive IsOuter : List String → Prop
  | manifest : IsOuter ["imsmanifest.xml"]
  | test (file : String) : IsOuter ["tests", file]
  | item (file : String) : IsOuter ["items", file]

variable {quiz : Quiz} {assets : AssetMap} {options : Options} {planned : Plan} {shuffle : Bool}
  {writer : Writer} {package : Package} {identifier : Identifier} {registry : Registry}
  {path name : String} {front back : List String}

/-- A quiz that is planned, strictly or not, can be packed. -/
theorem plan_packable (made : plan options quiz assets = .ok planned) : quiz.Packable assets := by
  obtain ⟨strict, suffix, shuffle⟩ := options
  cases strict with
  | false => exact (plan_ok_iff_packable rfl).mp ⟨planned, made⟩
  | true => exact (plan_ok_iff_packable rfl).mp ⟨_, plan_lenient_of_strict made⟩

theorem Registry.Sound.not_mem_backslash (sound : registry.Sound)
    (issued : registry.contains identifier = true) : '\\' ∉ identifier.text.toList :=
  Markup.not_mem_of_plain (sound.contains_plain issued) (by decide)

theorem Path.Descends.of_isName (isName : Path.IsName name) (whole : '/' ∉ name.toList)
    (plain : '\\' ∉ name.toList) : Path.Descends name := by
  rw [Path.descends_iff, Path.parts_of_not_mem whole]
  exact ⟨by simpa using isName, plain⟩

theorem manifestPath_descends : Path.Descends manifestPath := by
  decide

theorem descends_document (sound : registry.Sound)
    (issued : registry.contains identifier = true) : Path.Descends (identifier.text ++ ".xml") := by
  refine .of_isName (Path.isName_file _) ?_ ?_
  · simp [String.toList_append, sound.isWhole issued]
  · simp [String.toList_append, sound.not_mem_backslash issued]

theorem testPath_descends (sound : registry.Sound)
    (issued : registry.contains identifier = true) : Path.Descends (testPath identifier) := by
  rw [testPath_eq]
  exact (descends_document sound issued).below (by decide) (by decide) (by decide)

theorem itemPath_descends (sound : registry.Sound)
    (issued : registry.contains identifier = true) : Path.Descends (itemPath identifier) := by
  rw [itemPath_eq]
  exact (descends_document sound issued).below (by decide) (by decide) (by decide)

theorem assetPath_eq (name : String) : assetPath name = "assets" ++ "/" ++ name := rfl

theorem assetPath_descends (named : isAssetName name = true) : Path.Descends (assetPath name) := by
  rw [assetPath_eq]
  exact (isAssetName_iff.mp named).below (by decide) (by decide) (by decide)

theorem Plan.BuiltFrom.mem_paths (built : planned.BuiltFrom quiz assets shuffle) :
    path ∈ (writer.package planned quiz assets).paths ↔ planned.HasPath quiz path := by
  rw [built.paths_eq, built.asset_names]
  simp only [List.cons_append, List.mem_cons, List.mem_append, List.mem_map, List.mem_eraseDups]
  constructor
  · rintro (rfl | rfl | ⟨_, ⟨item, inside, rfl⟩, rfl⟩ | ⟨name, listed, rfl⟩)
    · exact .manifest
    · exact .test
    · exact .item inside
    · exact .asset listed
  · intro has
    cases has with
    | manifest => exact .inl rfl
    | test => exact .inr (.inl rfl)
    | item inside => exact .inr (.inr (.inl ⟨_, ⟨_, inside, rfl⟩, rfl⟩))
    | asset listed => exact .inr (.inr (.inr ⟨_, listed, rfl⟩))

theorem Plan.HasPath.descends (has : planned.HasPath quiz path)
    (built : planned.BuiltFrom quiz assets shuffle) (packable : quiz.Packable assets) :
    Path.Descends path := by
  cases has with
  | manifest => exact manifestPath_descends
  | test => exact testPath_descends built.sound (built.sound.lookup_issued built.test.identifier)
  | item inside => exact itemPath_descends built.sound (built.item_issued inside)
  | asset listed => exact assetPath_descends (packable.named _ listed)

theorem parts_assetPath (name : String) :
    Path.parts (assetPath name) = "assets" :: Path.parts name := by
  rw [assetPath_eq, Path.parts_append]
  rfl

theorem IsOuter.append_ne_asset (outer : IsOuter front) (back names : List String) :
    front ++ back ≠ "assets" :: names := by
  cases outer <;> simp

theorem IsOuter.append_eq_nil (outer : IsOuter front) (longer : IsOuter (front ++ back)) :
    back = [] := by
  generalize whole : front ++ back = parts at longer
  cases outer <;> cases longer <;> simp_all

/-- A path of a package is that of a listed asset, or in another place than assets. -/
theorem Plan.HasPath.asset_or_outer (has : planned.HasPath quiz path)
    (built : planned.BuiltFrom quiz assets shuffle) :
    (∃ name ∈ quiz.assets, path = assetPath name) ∨ IsOuter (Path.parts path) := by
  cases has with
  | manifest =>
      rw [manifestPath, Path.parts_of_not_mem (by decide)]
      exact .inr .manifest
  | test =>
      rw [parts_testPath (built.sound.isWhole (built.sound.lookup_issued built.test.identifier))]
      exact .inr (.test _)
  | item inside =>
      rw [parts_itemPath (built.sound.isWhole (built.item_issued inside))]
      exact .inr (.item _)
  | asset listed => exact .inl ⟨_, listed, rfl⟩

/-- Only an asset can lie on the way to another file, which is an asset then as well. -/
theorem Plan.HasPath.nests {other : String} (has : planned.HasPath quiz path)
    (also : planned.HasPath quiz other) (built : planned.BuiltFrom quiz assets shuffle)
    (nests : Path.Nests path other) : ∃ name ∈ quiz.assets, ∃ inner ∈ quiz.assets,
      path = assetPath name ∧ other = assetPath inner := by
  obtain ⟨back, filled, split⟩ := Path.nests_iff.mp nests
  rcases has.asset_or_outer built with ⟨name, listed, rfl⟩ | outer
  · rcases also.asset_or_outer built with ⟨inner, inside, rfl⟩ | outer
    · exact ⟨name, listed, inner, inside, rfl, rfl⟩
    · rw [parts_assetPath] at split
      have same : Path.parts other ++ [] = "assets" :: (Path.parts name ++ back) := by
        rw [List.append_nil, split, List.cons_append]
      exact (outer.append_ne_asset _ _ same).elim
  · rcases also.asset_or_outer built with ⟨inner, inside, rfl⟩ | longer
    · rw [parts_assetPath] at split
      exact (outer.append_ne_asset _ _ split.symm).elim
    · rw [split] at longer
      exact (filled (outer.append_eq_nil longer)).elim

theorem nests_assetPath_iff {inner : String} :
    Path.Nests (assetPath name) (assetPath inner) ↔ Path.Nests name inner := by
  simp only [Path.Nests, assetPath, String.append_assoc, String.append_right_inj]

/-- The files of a package form a tree exactly if its asset names do. -/
theorem Plan.BuiltFrom.isTree_iff (built : planned.BuiltFrom quiz assets shuffle)
    (writer : Writer) :
    Path.IsTree (writer.package planned quiz assets).paths ↔ Path.IsTree quiz.assets := by
  constructor
  · intro tree name listed inner inside nests
    exact tree _ (built.mem_paths.mpr (.asset listed)) _ (built.mem_paths.mpr (.asset inside))
      (nests_assetPath_iff.mpr nests)
  · intro tree path member other held nests
    obtain ⟨name, listed, inner, inside, rfl, rfl⟩ :=
      (built.mem_paths.mp member).nests (built.mem_paths.mp held) built nests
    exact tree name listed inner inside (nests_assetPath_iff.mp nests)

theorem generated_descends (ran : generate writer options quiz assets = .ok package) :
    ∀ path ∈ package.paths, Path.Descends path := by
  obtain ⟨planned, made, rfl⟩ := generate_ok ran
  intro path member
  exact ((plan_ok made).mem_paths.mp member).descends (plan_ok made) (plan_packable made)

theorem Package.mem_paths_of_mem_files {file : String × ByteArray} (member : file ∈ package.files) :
    file.1 ∈ package.paths :=
  package.paths_eq ▸ List.mem_map_of_mem member

theorem generated_files_descend (ran : generate writer options quiz assets = .ok package) :
    ∀ file ∈ package.files, Path.Descends file.1 :=
  fun _ member => generated_descends ran _ (Package.mem_paths_of_mem_files member)

theorem generated_files_distinct (ran : generate writer options quiz assets = .ok package) :
    (package.files.map Prod.fst).Nodup := by
  obtain ⟨planned, made, rfl⟩ := generate_ok ran
  rw [Package.paths_eq]
  exact ((plan_ok made).paths writer).2

theorem generated_isTree_iff (ran : generate writer options quiz assets = .ok package) :
    Path.IsTree package.paths ↔ Path.IsTree quiz.assets := by
  obtain ⟨planned, made, rfl⟩ := generate_ok ran
  exact (plan_ok made).isTree_iff writer

theorem generated_isTree_of_written {memory after : Memory} {directory : String}
    (ran : generate writer options quiz assets = .ok package)
    (wrote : memory.write directory package.files = (.ok (), after)) :
    Path.IsTree package.paths := by
  rw [← Package.paths_eq]
  exact Memory.isTree_of_written (generated_files_descend ran) (generated_files_distinct ran) wrote

/-- Every path of a generated package is made of names joined by single slashes. So wherever the
package is written, no file is written but below that directory. -/
theorem generated_package_stays_inside (ran : generate writer options quiz assets = .ok package) :
    (∀ path ∈ package.paths, Path.Descends path) ∧
    ∀ (memory : Memory) (directory : String),
      memory.Grows (memory.destination directory).IsBelow
        (memory.write directory package.files).2 := by
  refine ⟨generated_descends ran, fun memory directory =>
    (Memory.write_grows (generated_files_descend ran)).mono ?_⟩
  rintro _ ⟨file, _, rfl⟩
  exact ⟨_, Path.parts_ne_nil file.1, rfl⟩

/-- A quiz whose title, text and suffix lead up, and whose assets nest. -/
def cove : Quiz :=
  ⟨"../Cove", "", [.text ⟨some "..\\Map", "<p>Look.</p>", ["chart", "chart/key.png"]⟩]⟩

def coveAssets : AssetMap :=
  [("chart", ⟨.empty, "text/csv"⟩), ("chart/key.png", ⟨.empty, "image/png"⟩)]

theorem cove_planned (suffix : String) (paths : List String)
    (computed : (plan ⟨false, suffix, false⟩ cove coveAssets).toOption.map
      (fun planned => manifestPath :: planned.manifest.resources.map Resource.href) = some paths) :
    ∃ package, generate Format.qti21.writer ⟨false, suffix, false⟩ cove coveAssets =
      .ok package ∧ package.paths = paths := by
  obtain ⟨planned, made, seen⟩ := plan_observed _ computed
  exact ⟨_, generate_format .qti21 made, ((plan_ok made).paths _).1.trans seen⟩

theorem cove_stays_inside :
    ∃ package,
      generate Format.qti21.writer ⟨false, "../Pier", false⟩ cove coveAssets = .ok package ∧
      package.paths = ["imsmanifest.xml", "tests/test_.._cove_.._pier.xml",
        "items/text_.._map_.._pier.xml", "assets/chart", "assets/chart/key.png"] ∧
      (∀ path ∈ package.paths, Path.Descends path) ∧
      ∀ (memory : Memory) (directory : String),
        memory.Grows (memory.destination directory).IsBelow
          (memory.write directory package.files).2 := by
  obtain ⟨package, ran, paths⟩ := cove_planned "../Pier"
    ["imsmanifest.xml", "tests/test_.._cove_.._pier.xml", "items/text_.._map_.._pier.xml",
      "assets/chart", "assets/chart/key.png"] (by decide +kernel)
  obtain ⟨descends, inside⟩ := generated_package_stays_inside ran
  exact ⟨package, ran, paths, descends, inside⟩

/-- The files of a generated package form a tree exactly if the asset names that its quiz lists do.
Whenever all of them could be written, they do and each file holds what it should; and if they do,
all of them can be written into any empty directory where the paths are not too long. -/
theorem generated_package_is_tree_iff_asset_names_are
    (ran : generate writer options quiz assets = .ok package) :
    (Path.IsTree package.paths ↔ Path.IsTree quiz.assets) ∧
    (∀ (memory : Memory) directory after,
      memory.write directory package.files = (.ok (), after) →
      Path.IsTree quiz.assets ∧
        ∀ file ∈ package.files, after.content? (Path.join directory file.1) = some file.2) ∧
    ∀ (memory : Memory) directory, memory.HoldsOnly directory [] →
      (∀ path ∈ package.paths, Path.isUsable (Path.join directory path) = true) →
      Path.IsTree quiz.assets →
      ∃ after, memory.write directory package.files = (.ok (), after) := by
  have descend := generated_files_descend ran
  have distinct := generated_files_distinct ran
  have same := generated_isTree_iff ran
  refine ⟨same, fun memory directory after wrote =>
    ⟨same.mp (generated_isTree_of_written ran wrote), fun file member => ?_⟩,
    fun memory directory holds usable tree => holds.write descend (fun file member => ?_) ?_⟩
  · exact (Memory.write_ok descend distinct wrote file member).content?
  · exact usable _ (Package.mem_paths_of_mem_files member)
  · rw [List.append_nil, Package.paths_eq]
    exact same.mpr tree

/-- A host with an empty directory. -/
def pier : Memory :=
  ⟨[], [(["out"], .directory)], [], "", ""⟩

theorem pier_holds_nothing : pier.HoldsOnly "out" [] := by
  have reached : pier.destination "out" = ["out"] := by decide +kernel
  have passed : (pier.start "out").trail (Path.steps "out") = [["out"]] := by decide +kernel
  have below (names : List String) (filled : names ≠ []) :
      pier.node? (pier.destination "out" ++ names) = none := by
    cases names with
    | nil => exact (filled rfl).elim
    | cons name rest =>
        rw [reached]
        simp [Memory.node?, pier, List.lookup_cons]
  refine ⟨rfl, ?_, fun names content filled there => ?_, fun names filled there => ?_⟩
  · rw [passed]
    exact List.forall_mem_singleton.mpr rfl
  · rw [below names filled] at there
    cases there
  · rw [below names filled] at there
    cases there

theorem voyage_is_written_whole :
    ∃ package after,
      generate Format.qti30.writer ⟨false, "", false⟩ voyage charts = .ok package ∧
      pier.write "out" package.files = (.ok (), after) ∧
      ∀ file ∈ package.files, after.content? (Path.join "out" file.1) = some file.2 := by
  have computed : (plan ⟨false, "", false⟩ voyage charts).toOption.map
      (fun planned => (manifestPath :: planned.manifest.resources.map Resource.href).all
        fun path => Path.isUsable (Path.join "out" path)) = some true := by
    decide +kernel
  obtain ⟨planned, made, usable⟩ := plan_observed _ computed
  have ran := generate_format .qti30 made
  obtain ⟨_, whole, writable⟩ := generated_package_is_tree_iff_asset_names_are ran
  rw [← ((plan_ok made).paths Format.qti30.writer).1] at usable
  have tree : Path.IsTree voyage.assets := Path.isTree_of_whole (by decide)
  obtain ⟨after, wrote⟩ := writable pier "out" pier_holds_nothing (List.all_eq_true.mp usable) tree
  exact ⟨_, after, ran, wrote, (whole pier "out" after wrote).2⟩

/-- A chart is to be a file and the directory of its key, so its package cannot be written. -/
theorem cove_chart_is_file_and_directory :
    ∃ package,
      generate Format.qti21.writer ⟨false, "", false⟩ cove coveAssets = .ok package ∧
      "assets/chart" ∈ package.paths ∧ "assets/chart" ++ "/" ++ "key.png" ∈ package.paths ∧
      ∀ (memory : Memory) directory after,
        memory.write directory package.files ≠ (.ok (), after) := by
  obtain ⟨package, ran, paths⟩ := cove_planned ""
    ["imsmanifest.xml", "tests/test_.._cove.xml", "items/text_.._map.xml", "assets/chart",
      "assets/chart/key.png"] (by decide +kernel)
  have outer : "assets/chart" ∈ package.paths := by rw [paths]; decide
  have inner : "assets/chart" ++ "/" ++ "key.png" ∈ package.paths := by rw [paths]; decide
  refine ⟨package, ran, outer, inner, fun memory directory after wrote => ?_⟩
  exact generated_isTree_of_written ran wrote _ outer _ inner ⟨"key.png", rfl⟩

end QuizPackage
