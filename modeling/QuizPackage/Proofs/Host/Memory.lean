import Mathlib.Data.List.Basic
import QuizPackage.Host.Memory
import QuizPackage.Proofs.Path.Parts

namespace QuizPackage

/-- Names lead down from a directory to a place. -/
def Place.IsBelow (directory place : Place) : Prop :=
  ∃ names, names ≠ [] ∧ place = directory ++ names

/-- The places that the parts of a path lead to, one after the other. -/
def Place.trail (place : Place) : List String → List Place
  | [] => []
  | part :: rest => place.step part :: (place.step part).trail rest

def Memory.IsFile (memory : Memory) (place : Place) : Prop :=
  ∃ content, memory.node? place = some (.file content)

/-- Files are written at some places only, and nothing disappears or changes its kind. Elsewhere at
most directories are made where nothing was. -/
structure Memory.Grows (written : Place → Prop) (before after : Memory) : Prop where
  workingDirectory : after.workingDirectory = before.workingDirectory
  directories : ∀ place, before.node? place = some .directory →
    after.node? place = some .directory
  files : ∀ place, before.IsFile place → after.IsFile place
  others : ∀ place, ¬written place → after.node? place = before.node? place ∨
    before.node? place = none ∧ after.node? place = some .directory

variable {memory before middle after : Memory} {place final : Place} {node : FileNode}
  {part path : String} {parts front back names : List String} {written wider : Place → Prop}

theorem Memory.isDirectory_iff :
    memory.isDirectory place = true ↔ memory.node? place = some .directory := by
  unfold Memory.isDirectory
  cases memory.node? place with
  | none => simp
  | some node => cases node <;> simp

theorem Memory.isDirectory_eq_false_iff :
    memory.isDirectory place = false ↔ memory.node? place ≠ some .directory := by
  rw [← Bool.not_eq_true, Memory.isDirectory_iff]

theorem Memory.node?_root (memory : Memory) : memory.node? [] = some .directory := rfl

theorem Memory.node?_of_ne_root (memory : Memory) (below : place ≠ []) :
    memory.node? place = memory.nodes.lookup place := by
  cases place with
  | nil => exact (below rfl).elim
  | cons name rest => rfl

theorem Memory.node?_put (memory : Memory) (below : place ≠ []) (node : FileNode) :
    (memory.put place node).node? place = some node := by
  rw [Memory.node?_of_ne_root _ below]
  exact List.lookup_cons_self

theorem Memory.lookup_remaining {other : Place} (nodes : List (Place × FileNode))
    (different : other ≠ place) :
    (nodes.filter fun (held, _) => held != place).lookup other = nodes.lookup other := by
  induction nodes with
  | nil => rfl
  | cons entry rest ih =>
      obtain ⟨held, node⟩ := entry
      by_cases same : held = place
      · subst same
        simp [List.lookup_cons, beq_eq_false_iff_ne.mpr different, ih]
      · simp [same, List.lookup_cons, ih]

theorem Memory.node?_put_of_ne {other : Place} (memory : Memory) (different : other ≠ place)
    (node : FileNode) : (memory.put place node).node? other = memory.node? other := by
  cases other with
  | nil => rfl
  | cons name rest =>
      have apart : ((name :: rest) == place) = false := beq_eq_false_iff_ne.mpr different
      change ((place, node) :: _).lookup (name :: rest) = memory.nodes.lookup (name :: rest)
      rw [List.lookup_cons, apart]
      exact Memory.lookup_remaining memory.nodes different

theorem Memory.ne_root_of_free (free : memory.node? place = none) : place ≠ [] := by
  rintro rfl
  cases free

theorem Memory.ne_root_of_not_directory (free : memory.node? place ≠ some .directory) :
    place ≠ [] :=
  fun root => free (root ▸ memory.node?_root)

theorem Memory.Grows.refl (memory : Memory) : memory.Grows written memory where
  workingDirectory := rfl
  directories := fun _ there => there
  files := fun _ there => there
  others := fun _ _ => .inl rfl

theorem Memory.Grows.trans (first : before.Grows written middle)
    (second : middle.Grows written after) : before.Grows written after where
  workingDirectory := second.workingDirectory.trans first.workingDirectory
  directories := fun place there => second.directories place (first.directories place there)
  files := fun place there => second.files place (first.files place there)
  others := by
    intro place elsewhere
    rcases first.others place elsewhere with same | ⟨free, made⟩
    · rw [← same]
      exact second.others place elsewhere
    · exact .inr ⟨free, second.directories place made⟩

theorem Memory.Grows.mono (grows : before.Grows written after)
    (wide : ∀ place, written place → wider place) : before.Grows wider after where
  workingDirectory := grows.workingDirectory
  directories := grows.directories
  files := grows.files
  others := fun place elsewhere => grows.others place fun inside => elsewhere (wide place inside)

/-- What is at a place where nothing is written stays there. -/
theorem Memory.Grows.kept (grows : before.Grows written after) (elsewhere : ¬written place)
    (there : before.node? place = some node) : after.node? place = some node := by
  rcases grows.others place elsewhere with same | ⟨free, _⟩
  · rw [same, there]
  · rw [there] at free
    cases free

/-- A file where nothing is written was there before. -/
theorem Memory.Grows.file_before {content : ByteArray} (grows : before.Grows written after)
    (elsewhere : ¬written place) (there : after.node? place = some (.file content)) :
    before.node? place = some (.file content) := by
  rcases grows.others place elsewhere with same | ⟨_, made⟩
  · rw [← same, there]
  · rw [there] at made
    cases made

theorem Memory.Grows.start (grows : before.Grows written after) (path : String) :
    after.start path = before.start path := by
  rw [Memory.start, grows.workingDirectory, Memory.start]

theorem Memory.put_directory_grows (free : memory.node? place = none) :
    memory.Grows written (memory.put place .directory) := by
  have kept (other : Place) {node : FileNode} (there : memory.node? other = some node) :
      (memory.put place .directory).node? other = some node := by
    refine (memory.node?_put_of_ne ?_ _).trans there
    rintro rfl
    rw [free] at there
    cases there
  refine ⟨rfl, fun other => kept other, fun other ⟨content, there⟩ => ⟨content, kept other there⟩,
    fun other _ => ?_⟩
  by_cases same : other = place
  · subst same
    exact .inr ⟨free, memory.node?_put (Memory.ne_root_of_free free) _⟩
  · exact .inl (memory.node?_put_of_ne same _)

theorem Memory.isFile_of_put_directory {other : Place} (free : memory.node? place = none)
    (isFile : (memory.put place .directory).IsFile other) : memory.IsFile other := by
  obtain ⟨content, there⟩ := isFile
  by_cases same : other = place
  · subst same
    rw [memory.node?_put (Memory.ne_root_of_free free)] at there
    cases there
  · rw [memory.node?_put_of_ne same] at there
    exact ⟨content, there⟩

theorem Memory.put_file_grows {content : ByteArray}
    (free : memory.node? place ≠ some .directory) :
    memory.Grows (· = place) (memory.put place (.file content)) := by
  refine ⟨rfl, fun other there => ?_, fun other there => ?_,
    fun other elsewhere => .inl (memory.node?_put_of_ne elsewhere _)⟩
  · refine (memory.node?_put_of_ne ?_ _).trans there
    rintro rfl
    exact free there
  · by_cases same : other = place
    · subst same
      exact ⟨content, memory.node?_put (Memory.ne_root_of_not_directory free) _⟩
    · obtain ⟨held, there⟩ := there
      exact ⟨held, (memory.node?_put_of_ne same _).trans there⟩

theorem Place.step_of_isName (place : Place) (isName : Path.IsName part) :
    place.step part = place ++ [part] := by
  simp [Place.step, isName.filled, isName.here, isName.up]

theorem Place.foldl_step_of_isName (place : Place) (named : ∀ name ∈ names, Path.IsName name) :
    names.foldl Place.step place = place ++ names := by
  induction names generalizing place with
  | nil => simp
  | cons name rest ih =>
      rw [List.forall_mem_cons] at named
      rw [List.foldl_cons, ih _ named.2, Place.step_of_isName place named.1, List.append_assoc]
      rfl

theorem Place.mem_trail : final ∈ place.trail parts ↔
    ∃ front back, front ≠ [] ∧ parts = front ++ back ∧ final = front.foldl Place.step place := by
  induction parts generalizing place with
  | nil => simp [Place.trail]
  | cons part rest ih =>
      rw [Place.trail, List.mem_cons, ih]
      constructor
      · rintro (rfl | ⟨front, back, _, rfl, rfl⟩)
        · exact ⟨[part], rest, by simp, rfl, rfl⟩
        · exact ⟨part :: front, back, by simp, rfl, rfl⟩
      · rintro ⟨front, back, filled, split, rfl⟩
        cases front with
        | nil => exact (filled rfl).elim
        | cons first others =>
            obtain ⟨rfl, rfl⟩ := List.cons.inj split
            cases others with
            | nil => exact .inl rfl
            | cons second more => exact .inr ⟨second :: more, back, by simp, rfl, rfl⟩

theorem Place.trail_append (place : Place) (front back : List String) :
    place.trail (front ++ back) =
      place.trail front ++ (front.foldl Place.step place).trail back := by
  induction front generalizing place with
  | nil => rfl
  | cons part rest ih => simp [Place.trail, ih]

theorem Place.step_of_blank (place : Place) (blank : ¬(part != "" && part != ".") = true) :
    place.step part = place := by
  have idle : (part == "" || part == ".") = true := by
    by_contra moves
    simp_all
  simp only [Place.step, idle, if_true]

/-- Parts that lead nowhere change no place. -/
theorem Place.foldl_step_filter (place : Place) (parts : List String) :
    (parts.filter fun part => part != "" && part != ".").foldl Place.step place =
      parts.foldl Place.step place := by
  induction parts generalizing place with
  | nil => rfl
  | cons part rest ih =>
      rw [List.filter_cons]
      split
      · exact ih _
      · rename_i blank
        rw [List.foldl_cons, Place.step_of_blank place blank, ih]

theorem Place.mem_trail_filter (member : final ∈ place.trail parts) :
    final = place ∨
      final ∈ place.trail (parts.filter fun part => part != "" && part != ".") := by
  obtain ⟨front, back, filled, rfl, rfl⟩ := Place.mem_trail.mp member
  rw [← Place.foldl_step_filter place front, List.filter_append]
  cases counted : front.filter fun part => part != "" && part != "." with
  | nil => exact .inl rfl
  | cons first others => exact .inr (Place.mem_trail.mpr ⟨_, _, by simp, rfl, rfl⟩)

/-- The parts of a path that lead nowhere make no directory. -/
theorem Memory.makeAlong?_filter (there : memory.node? place = some .directory)
    (parts : List String) :
    memory.makeAlong? place (parts.filter fun part => part != "" && part != ".") =
      memory.makeAlong? place parts := by
  induction parts generalizing memory place with
  | nil => rfl
  | cons part rest ih =>
      rw [List.filter_cons]
      split
      · simp only [Memory.makeAlong?]
        cases next : memory.node? (place.step part) with
        | none =>
            exact ih (memory.node?_put (Memory.ne_root_of_free next) _)
        | some node =>
            cases node with
            | directory => exact ih next
            | file content => rfl
      · rename_i blank
        simp only [Memory.makeAlong?, Place.step_of_blank place blank, there]
        exact ih there

/-- Making directories leaves directories along the whole path, and everything else as it was. -/
theorem Memory.makeAlong?_some (made : memory.makeAlong? place parts = some after) :
    (∀ written, memory.Grows written after) ∧
      (∀ along ∈ place.trail parts, after.node? along = some .directory) ∧
      ∀ other, other ∉ place.trail parts → after.node? other = memory.node? other := by
  induction parts generalizing memory place with
  | nil =>
      cases made
      exact ⟨fun _ => .refl _, by simp [Place.trail], fun _ _ => rfl⟩
  | cons part rest ih =>
      simp only [Memory.makeAlong?] at made
      rw [Place.trail]
      cases next : memory.node? (place.step part) with
      | none =>
          rw [next] at made
          obtain ⟨grows, along, others⟩ := ih made
          have here := (grows fun _ => False).directories _
            (memory.node?_put (Memory.ne_root_of_free next) .directory)
          refine ⟨fun _ => (Memory.put_directory_grows next).trans (grows _),
            List.forall_mem_cons.mpr ⟨here, along⟩, fun other elsewhere => ?_⟩
          rw [List.mem_cons, not_or] at elsewhere
          exact (others other elsewhere.2).trans (memory.node?_put_of_ne elsewhere.1 _)
      | some node =>
          rw [next] at made
          cases node with
          | directory =>
              obtain ⟨grows, along, others⟩ := ih made
              have here := (grows fun _ => False).directories _ next
              refine ⟨grows, List.forall_mem_cons.mpr ⟨here, along⟩, ?_⟩
              intro other elsewhere
              exact others other fun inside => elsewhere (List.mem_cons_of_mem _ inside)
          | file content => cases made

theorem Memory.makeAlong?_isSome (free : ∀ along ∈ place.trail parts, ¬memory.IsFile along) :
    ∃ after, memory.makeAlong? place parts = some after := by
  induction parts generalizing memory place with
  | nil => exact ⟨memory, rfl⟩
  | cons part rest ih =>
      rw [Place.trail, List.forall_mem_cons] at free
      simp only [Memory.makeAlong?]
      cases next : memory.node? (place.step part) with
      | none =>
          exact ih fun along member isFile =>
            free.2 along member (Memory.isFile_of_put_directory next isFile)
      | some node =>
          cases node with
          | directory => exact ih free.2
          | file content => exact (free.1 ⟨content, next⟩).elim

theorem Memory.follow?_some (found : memory.follow? place parts = some final) :
    final = parts.foldl Place.step place ∧
      ∀ front back, parts = front ++ back → back ≠ [] →
        memory.node? (front.foldl Place.step place) = some .directory := by
  induction parts generalizing place with
  | nil =>
      cases found
      exact ⟨rfl, fun front back split filled => (filled (List.nil_eq_append_iff.mp split).2).elim⟩
  | cons part rest ih =>
      rw [Memory.follow?] at found
      split at found
      · rename_i there
        obtain ⟨same, along⟩ := ih found
        refine ⟨same, fun front back split filled => ?_⟩
        cases front with
        | nil => exact Memory.isDirectory_iff.mp there
        | cons first others =>
            obtain ⟨rfl, rfl⟩ := List.cons.inj split
            exact along others back rfl filled
      · cases found

theorem Memory.follow?_of_directories (there : memory.node? place = some .directory)
    (along : ∀ passed ∈ place.trail parts.dropLast, memory.node? passed = some .directory) :
    memory.follow? place parts = some (parts.foldl Place.step place) := by
  induction parts generalizing place with
  | nil => rfl
  | cons part rest ih =>
      rw [Memory.follow?, if_pos (Memory.isDirectory_iff.mpr there), List.foldl_cons]
      cases rest with
      | nil => rfl
      | cons next more =>
          rw [List.dropLast_cons_cons, Place.trail, List.forall_mem_cons] at along
          exact ih along.1 along.2

theorem Memory.Grows.follow? (grows : before.Grows written after)
    (found : before.follow? place parts = some final) :
    after.follow? place parts = some final := by
  induction parts generalizing place with
  | nil => exact found
  | cons part rest ih =>
      rw [Memory.follow?] at found ⊢
      split at found
      · rename_i there
        have still := grows.directories place (Memory.isDirectory_iff.mp there)
        rw [if_pos (Memory.isDirectory_iff.mpr still)]
        exact ih found
      · cases found

end QuizPackage
