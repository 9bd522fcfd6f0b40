import Mathlib.Data.List.Basic
import QuizPackage.Layout

namespace QuizPackage

/-- Whether a part leads one step down. -/
structure Path.IsName (part : String) : Prop where
  filled : part ≠ ""
  here : part ≠ "."
  up : part ≠ ".."

instance (part : String) : Decidable (Path.IsName part) :=
  decidable_of_iff (part ≠ "" ∧ part ≠ "." ∧ part ≠ "..")
    ⟨fun ⟨filled, here, up⟩ => ⟨filled, here, up⟩, fun isName => ⟨isName.1, isName.2, isName.3⟩⟩

/-- A path of names joined by single slashes, which leads down from wherever it starts. -/
structure Path.Descends (path : String) : Prop where
  named : ∃ names, names ≠ [] ∧ path = "/".intercalate names ∧
    ∀ name ∈ names, Path.IsName name ∧ '/' ∉ name.toList
  noBackslash : '\\' ∉ path.toList
  relative : Path.isAbsolute path = false

/-- One path leads on from the end of another. -/
def Path.Nests (path other : String) : Prop :=
  ∃ rest, other = path ++ "/" ++ rest

/-- Paths that can all be files of one tree: no file is to be a directory for another. -/
def Path.IsTree (paths : List String) : Prop :=
  ∀ path ∈ paths, ∀ other ∈ paths, ¬Path.Nests path other

variable {text : List Char} {path base name part front back : String} {names : List String}

theorem Path.splitSlash_ne_nil (text : List Char) : splitSlash text ≠ [] := by
  cases text with
  | nil => simp [splitSlash]
  | cons c rest =>
      simp only [splitSlash]
      split
      · simp
      · split <;> simp

theorem Path.splitSlash_eq_splitOn (text : List Char) : splitSlash text = text.splitOn '/' := by
  induction text with
  | nil => rfl
  | cons c rest ih =>
      rw [splitSlash, List.splitOn, List.splitOnP_cons_eq_if_modifyHead, ← List.splitOn, ← ih]
      split
      · rfl
      · cases parted : splitSlash rest with
        | nil => exact (splitSlash_ne_nil rest parted).elim
        | cons part parts => rfl

theorem Path.splitSlash_append (front back : List Char) :
    splitSlash (front ++ '/' :: back) = splitSlash front ++ splitSlash back := by
  induction front with
  | nil => rfl
  | cons c rest ih =>
      by_cases slash : c = '/'
      · simp [splitSlash, slash, ih]
      · simp only [List.cons_append, splitSlash, beq_iff_eq, slash, if_false, ih]
        cases parted : splitSlash rest with
        | nil => exact (splitSlash_ne_nil rest parted).elim
        | cons part parts => rfl

theorem Path.splitSlash_of_not_mem (whole : '/' ∉ text) : splitSlash text = [text] := by
  induction text with
  | nil => rfl
  | cons c rest ih =>
      rw [List.mem_cons, not_or] at whole
      have other : c ≠ '/' := fun equal => whole.1 equal.symm
      simp [splitSlash, other, ih whole.2]

theorem Path.not_mem_of_mem_splitSlash {letters : List Char} (member : letters ∈ splitSlash text) :
    '/' ∉ letters := by
  induction text generalizing letters with
  | nil =>
      rw [List.mem_singleton.mp member]
      exact List.not_mem_nil
  | cons c rest ih =>
      rw [splitSlash] at member
      split at member
      · rcases List.mem_cons.mp member with rfl | member
        · exact List.not_mem_nil
        · exact ih member
      · rename_i other
        rw [beq_iff_eq] at other
        cases parted : splitSlash rest with
        | nil => exact (splitSlash_ne_nil rest parted).elim
        | cons first others =>
            rw [parted] at ih member
            rcases List.mem_cons.mp member with rfl | member
            · rw [List.mem_cons, not_or]
              exact ⟨fun slash => other slash.symm, ih List.mem_cons_self⟩
            · exact ih (List.mem_cons_of_mem first member)

theorem Path.parts_ne_nil (path : String) : parts path ≠ [] := by
  simpa [parts] using splitSlash_ne_nil path.toList

theorem Path.exists_last (path : String) :
    ∃ last, parts path = (parts path).dropLast ++ [last] :=
  ⟨_, (List.dropLast_append_getLast (parts_ne_nil path)).symm⟩

theorem Path.parts_append (front back : String) :
    parts (front ++ "/" ++ back) = parts front ++ parts back := by
  simp [parts, String.toList_append, splitSlash_append]

theorem Path.parts_of_not_mem (whole : '/' ∉ name.toList) : parts name = [name] := by
  simp [parts, splitSlash_of_not_mem whole]

/-- The name of a document is longer than the parts that are no names. -/
theorem Path.isName_file (name : String) : IsName (name ++ ".xml") := by
  have long : 4 ≤ (name ++ ".xml").length := by
    rw [String.length_append]
    exact Nat.le_add_left 4 _
  have other (short : String) (less : short.length < 4) : name ++ ".xml" ≠ short := by
    rintro rfl
    omega
  exact ⟨other "" (by decide), other "." (by decide), other ".." (by decide)⟩

theorem Path.parts_file (whole : '/' ∉ name.toList) :
    parts (name ++ ".xml") = [name ++ ".xml"] := by
  refine parts_of_not_mem ?_
  simp [String.toList_append, whole]

/-- A path is its parts joined by slashes. -/
theorem Path.intercalate_parts (path : String) : "/".intercalate (parts path) = path := by
  rw [← String.toList_inj, String.toList_intercalate, parts, List.map_map, splitSlash_eq_splitOn]
  simp [Function.comp_def, List.intercalate_splitOn]

theorem Path.parts_intercalate (filled : names ≠ []) (whole : ∀ name ∈ names, '/' ∉ name.toList) :
    parts ("/".intercalate names) = names := by
  have apart : ∀ letters ∈ names.map String.toList, '/' ∉ letters := by simpa using whole
  have split := List.splitOn_intercalate '/' apart (by simpa using filled)
  rw [parts, splitSlash_eq_splitOn, String.toList_intercalate]
  change (List.splitOn '/' (['/'].intercalate (names.map String.toList))).map String.ofList = names
  rw [split, List.map_map]
  simp [Function.comp_def]

theorem Path.parts_injective : Function.Injective parts := by
  intro first second same
  rw [← intercalate_parts first, same, intercalate_parts]

theorem Path.not_mem_of_mem_parts (member : part ∈ parts path) : '/' ∉ part.toList := by
  obtain ⟨letters, found, rfl⟩ := List.mem_map.mp member
  rw [String.toList_ofList]
  exact not_mem_of_mem_splitSlash found

theorem Path.IsName.counts (isName : IsName name) : (name != "" && name != ".") = true := by
  simp [isName.filled, isName.here]

theorem Path.steps_append (front back : String) :
    steps (front ++ "/" ++ back) = steps front ++ steps back := by
  rw [steps, parts_append, List.filter_append, steps, steps]

theorem Path.steps_empty : steps "" = [] := rfl

theorem Path.parts_slash (path : String) : parts (path ++ "/") = parts path ++ [""] := by
  have slashed := parts_append path ""
  rwa [String.append_empty] at slashed

theorem Path.steps_slash (path : String) : steps (path ++ "/") = steps path := by
  rw [steps, parts_slash, List.filter_append, ← steps]
  exact List.append_nil _

theorem Path.steps_of_isName (isName : IsName name) (whole : '/' ∉ name.toList) :
    steps name = [name] := by
  rw [steps, parts_of_not_mem whole, List.filter_singleton, isName.counts]
  rfl

theorem Path.isAbsolute_append (filled : front ≠ "") (back : String) :
    isAbsolute (front ++ back) = isAbsolute front := by
  cases letters : front.toList with
  | nil => exact (filled (String.toList_eq_nil_iff.mp letters)).elim
  | cons first rest => simp [isAbsolute, String.toList_append, letters]

/-- A path leads down exactly if its parts are all names and no backslash is in it. -/
theorem Path.descends_iff :
    Descends path ↔ (∀ part ∈ parts path, IsName part) ∧ '\\' ∉ path.toList := by
  constructor
  · rintro ⟨⟨names, filled, rfl, named⟩, plain, _⟩
    rw [parts_intercalate filled fun name member => (named name member).2]
    exact ⟨fun name member => (named name member).1, plain⟩
  · rintro ⟨named, plain⟩
    refine ⟨⟨parts path, parts_ne_nil path, (intercalate_parts path).symm,
      fun name member => ⟨named name member, not_mem_of_mem_parts member⟩⟩, plain, ?_⟩
    -- An absolute path has an empty part in front of its first slash.
    cases letters : path.toList with
    | nil => simp [isAbsolute, letters]
    | cons first rest =>
        by_contra absolute
        have slash : first = '/' := by simpa [isAbsolute, letters] using absolute
        have member : "" ∈ parts path := by
          simp [parts, letters, slash, splitSlash]
        exact (named "" member).filled rfl

theorem Path.Descends.parts_isName (descends : Descends path) : ∀ part ∈ parts path, IsName part :=
  (descends_iff.mp descends).1

theorem Path.Descends.steps_eq (descends : Descends path) : steps path = parts path := by
  rw [steps, List.filter_eq_self]
  exact fun part member => (descends.parts_isName part member).counts

/-- A directory in front of a path that leads down keeps it leading down. -/
theorem Path.Descends.below {directory : String} (named : IsName directory)
    (whole : '/' ∉ directory.toList) (plain : '\\' ∉ directory.toList)
    (descends : Descends path) : Descends (directory ++ "/" ++ path) := by
  rw [descends_iff] at descends ⊢
  rw [parts_append, parts_of_not_mem whole]
  refine ⟨List.forall_mem_cons.mpr ⟨named, descends.1⟩, ?_⟩
  simp [String.toList_append, plain, descends.2]

theorem Path.exists_front (slash : base.toList.getLast? = some '/') :
    ∃ front, base = front ++ "/" := by
  obtain ⟨front, letters⟩ := List.getLast?_eq_some_iff.mp slash
  refine ⟨String.ofList front, ?_⟩
  rw [← String.toList_inj, letters]
  simp

/-- Joined to a directory, a path leads on from there. -/
theorem Path.Descends.parts_join (descends : Descends path) (base : String) :
    ∃ front, parts (join base path) = front ++ parts path ∧
      (front.filter fun part => part != "" && part != ".") = steps base := by
  unfold Path.join
  rw [descends.relative, Bool.false_or]
  split
  · rename_i empty
    rw [beq_iff_eq.mp empty]
    exact ⟨[], rfl, rfl⟩
  · split
    · rename_i slash
      obtain ⟨front, rfl⟩ := exists_front (beq_iff_eq.mp slash)
      exact ⟨parts front, parts_append _ _, (steps_slash front).symm⟩
    · exact ⟨parts base, parts_append _ _, rfl⟩

theorem Path.Descends.steps_join (descends : Descends path) (base : String) :
    steps (join base path) = steps base ++ parts path := by
  obtain ⟨front, whole, counted⟩ := descends.parts_join base
  rw [steps, whole, List.filter_append, counted, ← steps, descends.steps_eq]

theorem Path.Descends.isAbsolute_join (descends : Descends path) (base : String) :
    isAbsolute (join base path) = isAbsolute base := by
  unfold Path.join
  rw [descends.relative, Bool.false_or]
  split
  · rename_i empty
    rw [beq_iff_eq.mp empty, descends.relative]
    rfl
  · rename_i filled
    rw [beq_iff_eq] at filled
    split
    · rw [isAbsolute_append filled]
    · rw [String.append_assoc, isAbsolute_append filled]

theorem Path.nests_iff {other : String} :
    Nests path other ↔ ∃ back, back ≠ [] ∧ parts other = parts path ++ back := by
  constructor
  · rintro ⟨rest, rfl⟩
    exact ⟨parts rest, parts_ne_nil rest, parts_append path rest⟩
  · rintro ⟨back, filled, split⟩
    refine ⟨"/".intercalate back, parts_injective ?_⟩
    rw [parts_append, split, parts_intercalate filled fun name member =>
      not_mem_of_mem_parts (split ▸ List.mem_append_right _ member)]

theorem Path.IsTree.mono {paths fewer : List String} (tree : IsTree paths)
    (subset : fewer ⊆ paths) : IsTree fewer :=
  fun path member other inside => tree path (subset member) other (subset inside)

/-- Names without slashes stand beside each other. -/
theorem Path.isTree_of_whole {paths : List String}
    (whole : ∀ path ∈ paths, '/' ∉ path.toList) : IsTree paths := by
  rintro path _ other inside ⟨rest, rfl⟩
  exact whole _ inside (by simp [String.toList_append])

theorem isAssetName_iff : isAssetName name = true ↔ Path.Descends name := by
  rw [Path.descends_iff]
  simp only [isAssetName, Bool.and_eq_true, List.all_eq_true, bne_iff_ne, ne_eq]
  constructor
  · rintro ⟨plain, named⟩
    exact ⟨fun part member => ⟨(named part member).1.1, (named part member).1.2,
      (named part member).2⟩, fun member => plain _ member rfl⟩
  · rintro ⟨named, plain⟩
    refine ⟨fun c member same => plain (same ▸ member), fun part member => ?_⟩
    obtain ⟨filled, here, up⟩ := named part member
    exact ⟨⟨filled, here⟩, up⟩

instance (path : String) : Decidable (Path.Descends path) :=
  decidable_of_iff (isAssetName path = true) isAssetName_iff

end QuizPackage
