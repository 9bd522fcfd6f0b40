import QuizPackage.Command.Build
import QuizPackage.Proofs.Host.Memory
import QuizPackage.Proofs.Path.Parent

/-!
# Writing files into a directory

Files whose paths lead down are written below the directory and nowhere else. All of them can be
written into an empty directory exactly if none is to be a directory for another.
-/

namespace QuizPackage

/-- The place of a directory. -/
def Memory.destination (memory : Memory) (directory : String) : Place :=
  (Path.steps directory).foldl Place.step (memory.start directory)

/-- Files are written into a directory one after the other, up to the first that cannot be. -/
def Memory.write (memory : Memory) (directory : String) (files : List (String × ByteArray)) :
    Except Command.Fault Unit × Memory :=
  (files.forM (Command.writeInto directory) : ExceptT Command.Fault (StateM Memory) Unit) memory

/-- A file can be reached below a directory, and holds what it is to hold. -/
structure Memory.Holds (memory : Memory) (directory : String) (file : String × ByteArray) :
    Prop where
  reached : memory.place? (Path.join directory file.1) =
    some (memory.destination directory ++ Path.parts file.1)
  content : memory.node? (memory.destination directory ++ Path.parts file.1) =
    some (.file file.2)

/-- A directory is there, and below it are only files at some paths and the directories that lead
to them. -/
structure Memory.HoldsOnly (memory : Memory) (directory : String) (paths : List String) :
    Prop where
  start : memory.node? (memory.start directory) = some .directory
  along : ∀ passed ∈ (memory.start directory).trail (Path.steps directory),
    memory.node? passed = some .directory
  files : ∀ names content, names ≠ [] →
    memory.node? (memory.destination directory ++ names) = some (.file content) →
    ∃ path ∈ paths, Path.parts path = names
  directories : ∀ names, names ≠ [] →
    memory.node? (memory.destination directory ++ names) = some .directory →
    ∃ path ∈ paths, ∃ back, back ≠ [] ∧ Path.parts path = names ++ back

variable {memory before made after : Memory} {directory path : String} {content : ByteArray}
  {file : String × ByteArray} {files : List (String × ByteArray)} {paths : List String}
  {written : Place → Prop} {final : Place}

theorem Memory.start_join (memory : Memory) (descends : Path.Descends path) (directory : String) :
    memory.start (Path.join directory path) = memory.start directory := by
  rw [Memory.start, descends.isAbsolute_join, Memory.start]

theorem Memory.Grows.destination (grows : before.Grows written after) (directory : String) :
    after.destination directory = before.destination directory := by
  rw [Memory.destination, grows.start, Memory.destination]

/-- A joined path leads through directories to a place below the directory. -/
theorem Memory.place?_join_some (descends : Path.Descends path)
    (found : memory.place? (Path.join directory path) = some final) :
    final = memory.destination directory ++ Path.parts path ∧
      ∀ front back, Path.parts path = front ++ back → back ≠ [] →
        memory.node? (memory.destination directory ++ front) = some .directory := by
  rw [Memory.place?] at found
  split at found
  · rw [memory.start_join descends] at found
    obtain ⟨outer, whole, counted⟩ := descends.parts_join directory
    obtain ⟨same, along⟩ := Memory.follow?_some found
    have reached (names : List String) (named : ∀ name ∈ names, Path.IsName name) :
        (outer ++ names).foldl Place.step (memory.start directory) =
          memory.destination directory ++ names := by
      rw [List.foldl_append, ← Place.foldl_step_filter _ outer, counted,
        Place.foldl_step_of_isName _ named, Memory.destination]
    refine ⟨?_, fun front back split filled => ?_⟩
    · rw [same, whole, reached _ descends.parts_isName]
    · have named : ∀ name ∈ front, Path.IsName name := fun name member =>
        descends.parts_isName name (split ▸ List.mem_append_left _ member)
      rw [← reached front named]
      exact along _ back (by rw [whole, split, List.append_assoc]) filled
  · cases found

theorem Memory.place?_join_of_directories (descends : Path.Descends path)
    (usable : Path.isUsable (Path.join directory path) = true)
    (start : memory.node? (memory.start directory) = some .directory)
    (along : ∀ passed ∈ (memory.start directory).trail
        (Path.steps directory ++ (Path.parts path).dropLast),
      memory.node? passed = some .directory) :
    memory.place? (Path.join directory path) =
      some (memory.destination directory ++ Path.parts path) := by
  obtain ⟨outer, whole, counted⟩ := descends.parts_join directory
  have filled : Path.join directory path ≠ "" := by
    intro empty
    have parts := descends.steps_join directory
    rw [empty, Path.steps_empty, eq_comm, List.append_eq_nil_iff] at parts
    exact Path.parts_ne_nil path parts.2
  have inner : ((Path.parts path).dropLast.filter fun part => part != "" && part != ".") =
      (Path.parts path).dropLast :=
    List.filter_eq_self.mpr fun part member =>
      (descends.parts_isName part (List.dropLast_subset _ member)).counts
  have passed : ∀ place ∈ (memory.start directory).trail
      (outer ++ Path.parts path).dropLast, memory.node? place = some .directory := by
    rw [List.dropLast_append_of_ne_nil (Path.parts_ne_nil path)]
    intro place member
    rcases Place.mem_trail_filter member with rfl | member
    · exact start
    · rw [List.filter_append, counted, inner] at member
      exact along place member
  have followed := Memory.follow?_of_directories start passed
  rw [List.foldl_append, ← Place.foldl_step_filter _ outer, counted,
    Place.foldl_step_of_isName _ descends.parts_isName] at followed
  rw [Memory.place?, memory.start_join descends, whole, usable, Bool.and_true,
    if_pos (bne_iff_ne.mpr filled), followed, Memory.destination]

theorem Memory.writeFile?_some (wrote : memory.writeFile? path content = some after) :
    ∃ final, memory.place? path = some final ∧ memory.node? final ≠ some .directory ∧
      after = memory.put final (.file content) := by
  obtain ⟨final, found, rest⟩ := Option.bind_eq_some_iff.mp wrote
  split at rest
  · cases rest
  · rename_i free
    rw [Bool.not_eq_true, Memory.isDirectory_eq_false_iff] at free
    exact ⟨final, found, free, (Option.some.inj rest).symm⟩

theorem Memory.writeFile?_of_place {memory : Memory} (found : memory.place? path = some final)
    (free : memory.node? final ≠ some .directory) (content : ByteArray) :
    memory.writeFile? path content = some (memory.put final (.file content)) := by
  simp [Memory.writeFile?, found, Memory.isDirectory_eq_false_iff.mpr free]

theorem Memory.makeDirectory?_grows (makes : memory.makeDirectory? path = some made) :
    memory.Grows written made := by
  rw [Memory.makeDirectory?] at makes
  split at makes
  · exact (Memory.makeAlong?_some makes).1 written
  · cases makes

theorem Memory.bind_eq {α β : Type} (memory : Memory)
    (step : ExceptT Command.Fault (StateM Memory) α)
    (next : α → ExceptT Command.Fault (StateM Memory) β) :
    (step >>= next) memory =
      match step memory with
      | (.ok value, after) => next value after
      | (.error fault, after) => (.error fault, after) := by
  change ExceptT.bindCont next (step memory).1 (step memory).2 = _
  obtain ⟨result, after⟩ := step memory
  cases result <;> rfl

theorem Memory.attempt_bind {α : Type} (memory : Memory) (change : Memory → Option Memory)
    (next : Bool → ExceptT Command.Fault (StateM Memory) α) :
    (ExceptT.lift (Memory.attempt change) >>= next) memory =
      match change memory with
      | none => next false memory
      | some after => next true after := by
  change (match Memory.attempt change memory with | (changed, after) => next changed after) = _
  unfold Memory.attempt
  cases change memory <;> rfl

theorem Command.writeInto_eq (memory : Memory) (directory : String) (file : String × ByteArray) :
    (Command.writeInto directory file : ExceptT Command.Fault (StateM Memory) Unit) memory =
      match memory.makeDirectory? (Path.parent (Path.join directory file.1)) with
      | none =>
          (.error (.uncreatedDirectory (Path.parent (Path.join directory file.1))), memory)
      | some made =>
          match made.writeFile? (Path.join directory file.1) file.2 with
          | none => (.error (.unwrittenFile (Path.join directory file.1)), made)
          | some after => (.ok (), after) := by
  let target := Path.join directory file.1
  refine (memory.attempt_bind (·.makeDirectory? (Path.parent target)) _).trans ?_
  dsimp only
  cases memory.makeDirectory? (Path.parent target) with
  | none => rfl
  | some made =>
      refine (made.attempt_bind (·.writeFile? target file.2) _).trans ?_
      dsimp only
      cases made.writeFile? target file.2 <;> rfl

theorem Memory.write_cons (memory : Memory) (directory : String) (file : String × ByteArray)
    (rest : List (String × ByteArray)) :
    memory.write directory (file :: rest) =
      match (Command.writeInto directory file : ExceptT Command.Fault (StateM Memory) Unit)
        memory with
      | (.ok _, after) => after.write directory rest
      | (.error fault, after) => (.error fault, after) := by
  have cut : memory.write directory (file :: rest) =
      (Command.writeInto directory file >>= fun _ => rest.forM (Command.writeInto directory) :
        ExceptT Command.Fault (StateM Memory) Unit) memory := rfl
  rw [cut, Memory.bind_eq]
  generalize (Command.writeInto directory file : ExceptT Command.Fault (StateM Memory) Unit)
    memory = first
  obtain ⟨result, after⟩ := first
  cases result <;> rfl

theorem Memory.write_cons_of_ok {rest : List (String × ByteArray)}
    (makes : memory.makeDirectory? (Path.parent (Path.join directory file.1)) = some made)
    (wrote : made.writeFile? (Path.join directory file.1) file.2 = some after) :
    memory.write directory (file :: rest) = after.write directory rest := by
  rw [Memory.write_cons, Command.writeInto_eq, makes]
  dsimp only
  rw [wrote]

/-- Either a file is written and the others come after it, or at most directories are made. -/
theorem Memory.write_cons_cases (memory : Memory) (directory : String)
    (file : String × ByteArray) (rest : List (String × ByteArray)) :
    (∃ made after, memory.makeDirectory? (Path.parent (Path.join directory file.1)) = some made ∧
      made.writeFile? (Path.join directory file.1) file.2 = some after ∧
      memory.write directory (file :: rest) = after.write directory rest) ∨
    ∃ fault made, memory.write directory (file :: rest) = (.error fault, made) ∧
      ∀ written, memory.Grows written made := by
  rw [Memory.write_cons, Command.writeInto_eq]
  cases makes : memory.makeDirectory? (Path.parent (Path.join directory file.1)) with
  | none => exact .inr ⟨_, memory, rfl, fun _ => .refl memory⟩
  | some made =>
      dsimp only
      cases wrote : made.writeFile? (Path.join directory file.1) file.2 with
      | none => exact .inr ⟨_, made, rfl, fun _ => Memory.makeDirectory?_grows makes⟩
      | some after => exact .inl ⟨made, after, rfl, wrote, rfl⟩

/-- The places of files below a directory. -/
def Memory.placesOf (memory : Memory) (directory : String) (files : List (String × ByteArray))
    (place : Place) : Prop :=
  ∃ file ∈ files, place = memory.destination directory ++ Path.parts file.1

theorem Memory.writeFile?_join_grows (descends : Path.Descends file.1)
    (wrote : memory.writeFile? (Path.join directory file.1) file.2 = some after) :
    memory.Grows (· = memory.destination directory ++ Path.parts file.1) after := by
  obtain ⟨final, found, free, rfl⟩ := Memory.writeFile?_some wrote
  obtain ⟨rfl, _⟩ := Memory.place?_join_some descends found
  exact Memory.put_file_grows free

/-- Writing files changes nothing but their own places, where files come to be. -/
theorem Memory.write_grows (descend : ∀ file ∈ files, Path.Descends file.1) :
    memory.Grows (memory.placesOf directory files) (memory.write directory files).2 := by
  induction files generalizing memory with
  | nil => exact .refl memory
  | cons file rest ih =>
      rw [List.forall_mem_cons] at descend
      rcases memory.write_cons_cases directory file rest with
        ⟨made, after, makes, wrote, result⟩ | ⟨fault, made, result, grows⟩
      · have first : memory.Grows (memory.placesOf directory (file :: rest)) made :=
          Memory.makeDirectory?_grows makes
        have place := first.destination directory
        have second := Memory.writeFile?_join_grows descend.1 wrote
        have others : after.Grows (after.placesOf directory rest) _ := ih descend.2
        rw [result]
        refine (first.trans (second.mono ?_)).trans (others.mono ?_)
        · rintro _ rfl
          exact ⟨file, List.mem_cons_self, by rw [place]⟩
        · rintro _ ⟨later, member, rfl⟩
          refine ⟨later, List.mem_cons_of_mem _ member, ?_⟩
          rw [second.destination, place]
      · rw [result]
        exact grows _

theorem Memory.Holds.content? (holds : memory.Holds directory file) :
    memory.content? (Path.join directory file.1) = some file.2 := by
  simp [Memory.content?, Memory.at?, holds.reached, holds.content]

theorem Memory.Grows.place? (grows : before.Grows written after)
    (found : before.place? path = some final) : after.place? path = some final := by
  rw [Memory.place?] at found ⊢
  split at found
  · rename_i fine
    rw [if_pos fine, grows.start]
    exact grows.follow? found
  · cases found

/-- A file that is held stays, unless another is written in its place. -/
theorem Memory.Holds.grows (holds : before.Holds directory file)
    (grows : before.Grows written after)
    (elsewhere : ¬written (before.destination directory ++ Path.parts file.1)) :
    after.Holds directory file where
  reached := by
    rw [grows.destination]
    exact grows.place? holds.reached
  content := by
    rw [grows.destination]
    exact grows.kept elsewhere holds.content

theorem Memory.holds_written (descends : Path.Descends file.1)
    (wrote : memory.writeFile? (Path.join directory file.1) file.2 = some after) :
    after.Holds directory file := by
  have grows := Memory.writeFile?_join_grows descends wrote
  obtain ⟨final, found, free, rfl⟩ := Memory.writeFile?_some wrote
  obtain ⟨rfl, _⟩ := Memory.place?_join_some descends found
  refine ⟨?_, ?_⟩
  · rw [grows.destination]
    exact grows.place? found
  · rw [grows.destination]
    exact memory.node?_put (Memory.ne_root_of_not_directory free) _

/-- When all files could be written, all of them are there. -/
theorem Memory.write_ok (descend : ∀ file ∈ files, Path.Descends file.1)
    (distinct : (files.map Prod.fst).Nodup)
    (ran : memory.write directory files = (.ok (), after)) :
    ∀ file ∈ files, after.Holds directory file := by
  induction files generalizing memory with
  | nil => simp
  | cons file rest ih =>
      rw [List.forall_mem_cons] at descend
      rw [List.map_cons, List.nodup_cons] at distinct
      rcases memory.write_cons_cases directory file rest with
        ⟨made, between, makes, wrote, result⟩ | ⟨fault, made, result, _⟩
      · rw [result] at ran
        refine List.forall_mem_cons.mpr ⟨?_, ih descend.2 distinct.2 ran⟩
        have others : between.Grows (between.placesOf directory rest) _ :=
          Memory.write_grows descend.2
        rw [ran] at others
        refine (Memory.holds_written descend.1 wrote).grows others ?_
        rintro ⟨later, member, same⟩
        have equal := Path.parts_injective (List.append_cancel_left same)
        exact distinct.1 (equal ▸ List.mem_map_of_mem member)
      · rw [result] at ran
        cases ran

/-- Of two files that are held, none lies on the way to the other. -/
theorem Memory.Holds.not_nests {other : String × ByteArray} (descends : Path.Descends other.1)
    (holds : memory.Holds directory file) (also : memory.Holds directory other) :
    ¬Path.Nests file.1 other.1 := by
  intro nests
  obtain ⟨back, filled, split⟩ := Path.nests_iff.mp nests
  have isDirectory := (Memory.place?_join_some descends also.reached).2 _ back split filled
  rw [holds.content] at isDirectory
  cases isDirectory

/-- Files that could all be written form a tree. -/
theorem Memory.isTree_of_written (descend : ∀ file ∈ files, Path.Descends file.1)
    (distinct : (files.map Prod.fst).Nodup)
    (wrote : memory.write directory files = (.ok (), after)) :
    Path.IsTree (files.map Prod.fst) := by
  have held := Memory.write_ok descend distinct wrote
  intro path member other inside
  obtain ⟨file, listed, rfl⟩ := List.mem_map.mp member
  obtain ⟨inner, also, rfl⟩ := List.mem_map.mp inside
  exact (held file listed).not_nests (descend inner also) (held inner also)

/-- The directories on the way to a new file can be made, and no others are. -/
theorem Memory.HoldsOnly.makeDirectory? (holds : memory.HoldsOnly directory paths)
    (descends : Path.Descends path)
    (usable : Path.isUsable (Path.join directory path) = true)
    (apart : ∀ other ∈ paths, ¬Path.Nests other path) :
    ∃ made, memory.makeDirectory? (Path.parent (Path.join directory path)) = some made ∧
      (∀ passed ∈ (memory.start directory).trail
          (Path.steps directory ++ (Path.parts path).dropLast),
        made.node? passed = some .directory) ∧
      ∀ place, place ∉ (memory.start directory).trail
          (Path.steps directory ++ (Path.parts path).dropLast) →
        made.node? place = memory.node? place := by
  have named := descends.leadsToName_join directory
  have start : memory.start (Path.parent (Path.join directory path)) = memory.start directory := by
    rw [Memory.start, Path.isAbsolute_parent named, ← Memory.start, memory.start_join descends]
  have inner : ∀ part ∈ (Path.parts path).dropLast, Path.IsName part := fun part member =>
    descends.parts_isName part (List.dropLast_subset _ member)
  have free : ∀ passed ∈ (memory.start directory).trail
      (Path.steps directory ++ (Path.parts path).dropLast), ¬memory.IsFile passed := by
    rintro passed member ⟨content, there⟩
    rw [Place.trail_append, List.mem_append] at member
    rcases member with member | member
    · rw [holds.along passed member] at there
      cases there
    · obtain ⟨front, back, filled, split, rfl⟩ := Place.mem_trail.mp member
      rw [split] at inner
      rw [Place.foldl_step_of_isName _ fun part inside =>
        inner part (List.mem_append_left _ inside)] at there
      obtain ⟨other, held, same⟩ := holds.files front content filled there
      obtain ⟨last, whole⟩ := Path.exists_last path
      refine apart other held (Path.nests_iff.mpr ⟨back ++ [last], by simp, ?_⟩)
      rw [same, ← List.append_assoc, ← split, ← whole]
  obtain ⟨made, makes⟩ := Memory.makeAlong?_isSome free
  refine ⟨made, ?_, (Memory.makeAlong?_some makes).2⟩
  rw [Memory.makeDirectory?, if_pos (Path.isUsable_parent named usable), start,
    ← Memory.makeAlong?_filter holds.start, ← Path.steps, descends.steps_parent_join, makes]

/-- The directories that are made on the way to a file all lead to it. -/
theorem Memory.HoldsOnly.directories_made (holds : memory.HoldsOnly directory paths)
    (descends : Path.Descends path)
    (others : ∀ place, place ∉ (memory.start directory).trail
        (Path.steps directory ++ (Path.parts path).dropLast) →
      made.node? place = memory.node? place) (names : List String) (filled : names ≠ [])
    (there : made.node? (memory.destination directory ++ names) = some .directory) :
    ∃ other ∈ path :: paths, ∃ back, back ≠ [] ∧ Path.parts other = names ++ back := by
  by_cases passed : memory.node? (memory.destination directory ++ names) = some .directory
  · obtain ⟨other, held, leads⟩ := holds.directories names filled passed
    exact ⟨other, List.mem_cons_of_mem _ held, leads⟩
  · have new : memory.destination directory ++ names ∈ (memory.start directory).trail
        (Path.steps directory ++ (Path.parts path).dropLast) := by
      by_contra outside
      exact passed (others _ outside ▸ there)
    rw [Place.trail_append, List.mem_append] at new
    rcases new with new | new
    · exact (passed (holds.along _ new)).elim
    · obtain ⟨front, back, _, split, reached⟩ := Place.mem_trail.mp new
      rw [Place.foldl_step_of_isName _ fun part inside => descends.parts_isName part
        (List.dropLast_subset _ (split ▸ List.mem_append_left _ inside))] at reached
      obtain rfl : names = front := List.append_cancel_left reached
      obtain ⟨last, whole⟩ := Path.exists_last path
      refine ⟨path, List.mem_cons_self, back ++ [last], by simp, ?_⟩
      rw [← List.append_assoc, ← split, ← whole]

/-- A directory that has got a new file holds only that one more. -/
theorem Memory.HoldsOnly.put_file (holds : memory.HoldsOnly directory paths)
    (grows : memory.Grows (fun _ => False) made)
    (directories : ∀ names, names ≠ [] →
      made.node? (memory.destination directory ++ names) = some .directory →
      ∃ other ∈ path :: paths, ∃ back, back ≠ [] ∧ Path.parts other = names ++ back)
    (free : made.node? (memory.destination directory ++ Path.parts path) ≠ some .directory)
    (content : ByteArray) :
    (made.put (memory.destination directory ++ Path.parts path) (.file content)).HoldsOnly
      directory (path :: paths) := by
  let place := memory.destination directory ++ Path.parts path
  let after := made.put place (.file content)
  have put : made.Grows (· = place) after := Memory.put_file_grows free
  have same : after.start directory = memory.start directory :=
    (put.start directory).trans (grows.start directory)
  have reached : after.destination directory = memory.destination directory :=
    (put.destination directory).trans (grows.destination directory)
  have kept (held : Place) (there : memory.node? held = some .directory) :
      after.node? held = some .directory := put.directories _ (grows.directories _ there)
  refine ⟨same ▸ kept _ holds.start, ?_, ?_, ?_⟩
  · rw [same]
    exact fun passed member => kept _ (holds.along passed member)
  · intro names held filled there
    by_cases own : Path.parts path = names
    · exact ⟨path, List.mem_cons_self, own⟩
    · rw [reached] at there
      have before := grows.file_before not_false (put.file_before
        (fun equal => own (List.append_cancel_left equal).symm) there)
      obtain ⟨other, inside, equal⟩ := holds.files names held filled before
      exact ⟨other, List.mem_cons_of_mem _ inside, equal⟩
  · intro names filled there
    rw [reached] at there
    refine directories names filled ?_
    have elsewhere : memory.destination directory ++ names ≠ place := by
      intro equal
      rw [equal, made.node?_put (Memory.ne_root_of_not_directory free)] at there
      cases there
    exact (made.node?_put_of_ne elsewhere _).symm.trans there

/-- A new file can be written if none at hand lies on its way, and if it lies on the way of none. -/
theorem Memory.HoldsOnly.writeFile (holds : memory.HoldsOnly directory paths)
    (descends : Path.Descends path)
    (usable : Path.isUsable (Path.join directory path) = true)
    (apart : ∀ other ∈ paths, ¬Path.Nests other path ∧ ¬Path.Nests path other)
    (content : ByteArray) :
    ∃ made after, memory.makeDirectory? (Path.parent (Path.join directory path)) = some made ∧
      made.writeFile? (Path.join directory path) content = some after ∧
      after.HoldsOnly directory (path :: paths) := by
  obtain ⟨made, makes, along, others⟩ :=
    holds.makeDirectory? descends usable fun other held => (apart other held).1
  have grows : memory.Grows (fun _ => False) made := Memory.makeDirectory?_grows makes
  have directories := holds.directories_made descends others
  have free : made.node? (memory.destination directory ++ Path.parts path) ≠ some .directory := by
    intro there
    obtain ⟨other, held, back, filled, split⟩ := directories _ (Path.parts_ne_nil path) there
    rcases List.mem_cons.mp held with rfl | held
    · exact filled (List.append_right_eq_self.mp split.symm)
    · exact (apart other held).2 (Path.nests_iff.mpr ⟨back, filled, split⟩)
  have found : made.place? (Path.join directory path) =
      some (memory.destination directory ++ Path.parts path) := by
    rw [← grows.destination]
    refine Memory.place?_join_of_directories descends usable ?_ ?_
    · rw [grows.start]
      exact grows.directories _ holds.start
    · rw [grows.start]
      exact along
  exact ⟨made, _, makes, Memory.writeFile?_of_place found free content,
    holds.put_file grows directories free content⟩

/-- Into a directory that holds nothing else, files can be written if they and those at hand can all
be files of one tree. -/
theorem Memory.HoldsOnly.write (holds : memory.HoldsOnly directory paths)
    (descend : ∀ file ∈ files, Path.Descends file.1)
    (usable : ∀ file ∈ files, Path.isUsable (Path.join directory file.1) = true)
    (tree : Path.IsTree (files.map Prod.fst ++ paths)) :
    ∃ after, memory.write directory files = (.ok (), after) := by
  induction files generalizing memory paths with
  | nil => exact ⟨memory, rfl⟩
  | cons file rest ih =>
      rw [List.forall_mem_cons] at descend usable
      have own : file.1 ∈ (file :: rest).map Prod.fst ++ paths := by simp
      have apart : ∀ other ∈ paths, ¬Path.Nests other file.1 ∧ ¬Path.Nests file.1 other := by
        intro other held
        have inside : other ∈ (file :: rest).map Prod.fst ++ paths := by simp [held]
        exact ⟨tree other inside file.1 own, tree file.1 own other inside⟩
      obtain ⟨made, after, makes, wrote, still⟩ :=
        holds.writeFile descend.1 usable.1 apart file.2
      have fewer : rest.map Prod.fst ++ file.1 :: paths ⊆ (file :: rest).map Prod.fst ++ paths :=
        List.perm_middle.subset
      obtain ⟨final, ran⟩ := ih still descend.2 usable.2 (tree.mono fewer)
      exact ⟨final, (Memory.write_cons_of_ok makes wrote).trans ran⟩

end QuizPackage
