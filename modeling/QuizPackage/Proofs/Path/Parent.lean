import QuizPackage.Proofs.Path.Parts

namespace QuizPackage

/-- A path without slashes and single dots at its end, except for a slash that it starts with. -/
def Path.trimmed (path : String) : String :=
  String.ofList (trimEnd path.toList.reverse).reverse

variable {path front name part target : String} {letters more : List Char}

theorem Path.ofList_reverse_dot (rest : List Char) :
    String.ofList ('.' :: '/' :: rest).reverse = String.ofList rest.reverse ++ "/" ++ "." := by
  rw [← String.toList_inj]
  simp

theorem Path.ofList_reverse_slash (rest : List Char) :
    String.ofList ('/' :: rest).reverse = String.ofList rest.reverse ++ "/" ++ "" := by
  rw [← String.toList_inj]
  simp

theorem Path.steps_trimEnd (reversed : List Char) :
    steps (String.ofList (trimEnd reversed).reverse) = steps (String.ofList reversed.reverse) := by
  fun_induction trimEnd reversed with
  | case1 rest ih =>
      rw [ih, ofList_reverse_slash, ofList_reverse_dot, steps_append, steps_append]
      rfl
  | case2 c rest ih => rw [ih, ofList_reverse_slash, steps_append, steps_empty, List.append_nil]
  | case3 reversed _ _ => rfl

theorem Path.parts_trimEnd (reversed : List Char)
    (member : part ∈ parts (String.ofList (trimEnd reversed).reverse)) :
    part = "" ∨ part ∈ parts (String.ofList reversed.reverse) := by
  fun_induction trimEnd reversed with
  | case1 rest ih =>
      rw [ofList_reverse_slash, parts_append] at ih
      rw [ofList_reverse_dot, parts_append]
      rcases ih member with empty | member
      · exact .inl empty
      · rcases List.mem_append.mp member with member | member
        · exact .inr (List.mem_append_left _ member)
        · exact .inl (List.mem_singleton.mp member)
  | case2 c rest ih =>
      rw [ofList_reverse_slash, parts_append]
      exact (ih member).imp_right (List.mem_append_left _)
  | case3 reversed _ _ => exact .inr member

theorem Path.trimEnd_suffix (reversed : List Char) : trimEnd reversed <:+ reversed := by
  fun_induction trimEnd reversed with
  | case1 rest ih => exact ih.trans (List.suffix_cons '.' _)
  | case2 c rest ih => exact ih.trans (List.suffix_cons '/' _)
  | case3 reversed _ _ => exact List.suffix_rfl

theorem Path.getLast?_trimEnd (reversed : List Char) :
    (trimEnd reversed).getLast? = reversed.getLast? := by
  fun_induction trimEnd reversed with
  | case1 rest ih => rw [ih, List.getLast?_cons_cons]
  | case2 c rest ih => rw [ih, List.getLast?_cons_cons]
  | case3 reversed _ _ => rfl

theorem Path.steps_trimmed (path : String) : steps (trimmed path) = steps path := by
  rw [trimmed, steps_trimEnd, List.reverse_reverse, String.ofList_toList]

theorem Path.isAbsolute_trimmed (path : String) : isAbsolute (trimmed path) = isAbsolute path := by
  rw [isAbsolute, trimmed, String.toList_ofList, List.head?_reverse, getLast?_trimEnd,
    List.getLast?_reverse, isAbsolute]

/-- What is trimmed off a path stood at its end. -/
theorem Path.exists_trimmed_append (path : String) : ∃ rest, path = trimmed path ++ rest := by
  obtain ⟨rest, split⟩ := trimEnd_suffix path.toList.reverse
  refine ⟨String.ofList rest.reverse, ?_⟩
  rw [← String.toList_inj, trimmed, String.toList_append, String.toList_ofList,
    String.toList_ofList, ← List.reverse_append, split, List.reverse_reverse]

/-- A path is its last part behind a text that is empty or ends in a slash. -/
theorem Path.cut_last (path : String) :
    ∃ front name, path = front ++ name ∧ '/' ∉ name.toList ∧
      (front = "" ∨ ∃ directory, front = directory ++ "/") := by
  let isPlain : Char → Bool := (· != '/')
  have split : path.toList.reverse.takeWhile isPlain ++ path.toList.reverse.dropWhile isPlain =
      path.toList.reverse := List.takeWhile_append_dropWhile
  refine ⟨String.ofList (path.toList.reverse.dropWhile isPlain).reverse,
    String.ofList (path.toList.reverse.takeWhile isPlain).reverse, ?_, ?_, ?_⟩
  · rw [← String.toList_inj, String.toList_append, String.toList_ofList, String.toList_ofList,
      ← List.reverse_append, split, List.reverse_reverse]
  · rw [String.toList_ofList, List.mem_reverse]
    intro member
    have plain := List.all_eq_true.mp (List.all_takeWhile (p := isPlain)) '/' member
    exact absurd plain (by decide)
  · cases rest : path.toList.reverse.dropWhile isPlain with
    | nil => exact .inl rfl
    | cons c others =>
        have filled : path.toList.reverse.dropWhile isPlain ≠ [] := by simp [rest]
        have slash := List.head_dropWhile_not isPlain filled
        simp only [rest, List.head_cons, isPlain, bne_eq_false_iff_eq] at slash
        refine .inr ⟨String.ofList others.reverse, ?_⟩
        rw [slash, ofList_reverse_slash, String.append_empty]

theorem Path.exists_last_letter (isName : IsName name) (whole : '/' ∉ name.toList) :
    ∃ c more, name.toList.reverse = c :: more ∧ c ≠ '/' ∧ '/' ∉ more ∧ (c = '.' → more ≠ []) := by
  cases letters : name.toList.reverse with
  | nil => exact (isName.filled (by simpa using letters)).elim
  | cons c more =>
      rw [← List.mem_reverse, letters, List.mem_cons, not_or] at whole
      refine ⟨c, more, rfl, fun slash => whole.1 slash.symm, whole.2, ?_⟩
      rintro rfl rfl
      refine isName.here ?_
      rw [← String.toList_inj, ← List.reverse_inj, letters]
      rfl

/-- Nothing is trimmed off a name. -/
theorem Path.trimEnd_of_isName (isName : IsName name) (whole : '/' ∉ name.toList)
    (more : List Char) : trimEnd (name.toList.reverse ++ more) = name.toList.reverse ++ more := by
  obtain ⟨c, letters, reversed, plain, others, dotted⟩ := exists_last_letter isName whole
  rw [reversed]
  refine trimEnd.eq_3 _ ?_ ?_
  · rintro rest equal
    obtain ⟨dot, next⟩ := List.cons.inj equal
    cases letters with
    | nil => exact dotted dot rfl
    | cons second _ => exact others ((List.cons.inj next).1 ▸ List.mem_cons_self)
  · rintro second rest equal
    exact plain (List.cons.inj equal).1

theorem Path.parent_eq (isName : IsName name) (whole : '/' ∉ name.toList)
    (ended : front = "" ∨ ∃ directory, front = directory ++ "/") :
    parent (front ++ name) = trimmed front := by
  have passed : ∀ c ∈ name.toList.reverse, (c != '/') = true := by
    intro c member
    rw [List.mem_reverse] at member
    exact bne_iff_ne.mpr fun slash => whole (slash ▸ member)
  have stopped : front.toList.reverse.dropWhile (· != '/') = front.toList.reverse := by
    rcases ended with rfl | ⟨directory, rfl⟩
    · rfl
    · simp
  rw [parent, String.toList_append, List.reverse_append]
  simp only [trimEnd_of_isName isName whole]
  rw [List.dropWhile_append_of_pos passed, stopped, trimmed]

/-- The last part of a path is a name. -/
def Path.LeadsToName (path : String) : Prop :=
  ∃ name ∈ (parts path).getLast?, IsName name

theorem Path.LeadsToName.cut (leads : LeadsToName target) :
    ∃ front name, target = front ++ name ∧ IsName name ∧ '/' ∉ name.toList ∧
      (front = "" ∨ ∃ directory, front = directory ++ "/") := by
  obtain ⟨front, name, rfl, whole, ended⟩ := cut_last target
  obtain ⟨last, found, isName⟩ := leads
  have same : last = name := by
    rcases ended with rfl | ⟨directory, rfl⟩
    · simpa [parts_of_not_mem whole] using found.symm
    · simpa [parts_append, parts_of_not_mem whole] using found.symm
  exact ⟨front, name, rfl, same ▸ isName, whole, ended⟩

theorem Path.steps_parent (leads : LeadsToName target) :
    ∃ name, IsName name ∧ steps target = steps (parent target) ++ [name] := by
  obtain ⟨front, name, rfl, isName, whole, ended⟩ := leads.cut
  refine ⟨name, isName, ?_⟩
  rw [parent_eq isName whole ended, steps_trimmed, ← steps_of_isName isName whole]
  rcases ended with rfl | ⟨directory, rfl⟩
  · rw [String.empty_append, steps_empty, List.nil_append]
  · rw [steps_append, steps_slash]

theorem Path.isAbsolute_of_whole (whole : '/' ∉ name.toList) : isAbsolute name = false := by
  cases letters : name.toList with
  | nil => simp [isAbsolute, letters]
  | cons first rest =>
      rw [letters, List.mem_cons, not_or] at whole
      simpa [isAbsolute, letters] using fun slash => whole.1 slash.symm

theorem Path.isAbsolute_parent (leads : LeadsToName target) :
    isAbsolute (parent target) = isAbsolute target := by
  obtain ⟨front, name, rfl, isName, whole, ended⟩ := leads.cut
  rw [parent_eq isName whole ended, isAbsolute_trimmed]
  rcases ended with rfl | ⟨directory, rfl⟩
  · rw [String.empty_append, isAbsolute_of_whole whole]
    rfl
  · exact (isAbsolute_append (by simp [String.append_eq_empty_iff]) name).symm

theorem Path.parts_front {directory : String} (member : part ∈ parts (directory ++ "/")) :
    part = "" ∨ part ∈ parts directory := by
  rw [parts_slash] at member
  rcases List.mem_append.mp member with member | member
  · exact .inr member
  · exact .inl (List.mem_singleton.mp member)

theorem Path.isUsable_iff : isUsable path = true ↔ path.utf8ByteSize ≤ greatestSize ∧
    (∀ part ∈ parts path, part.utf8ByteSize ≤ greatestNameSize) ∧ '\x00' ∉ path.toList := by
  simp [isUsable, and_assoc]

theorem Path.parts_parent (leads : LeadsToName target) (member : part ∈ parts (parent target)) :
    part = "" ∨ part ∈ parts target := by
  obtain ⟨front, name, rfl, isName, whole, ended⟩ := leads.cut
  rw [parent_eq isName whole ended] at member
  rcases parts_trimEnd _ member with empty | member
  · exact .inl empty
  · rw [List.reverse_reverse, String.ofList_toList] at member
    rcases ended with rfl | ⟨directory, rfl⟩
    · exact .inl (List.mem_singleton.mp member)
    · rw [parts_append]
      exact (parts_front member).imp_right (List.mem_append_left _)

theorem Path.exists_parent_append (leads : LeadsToName target) :
    ∃ rest, target = parent target ++ rest := by
  obtain ⟨front, name, rfl, isName, whole, ended⟩ := leads.cut
  obtain ⟨rest, split⟩ := exists_trimmed_append front
  rw [parent_eq isName whole ended]
  refine ⟨rest ++ name, ?_⟩
  rw [← String.append_assoc, ← split]

theorem Path.isUsable_parent (leads : LeadsToName target) (usable : isUsable target = true) :
    isUsable (parent target) = true := by
  rw [isUsable_iff] at usable ⊢
  obtain ⟨size, sizes, plain⟩ := usable
  obtain ⟨rest, split⟩ := exists_parent_append leads
  refine ⟨?_, fun part member => ?_, fun null => plain ?_⟩
  · rw [split, String.utf8ByteSize_append] at size
    omega
  · rcases parts_parent leads member with rfl | member
    · decide
    · exact sizes part member
  · rw [split, String.toList_append]
    exact List.mem_append_left _ null

theorem Path.Descends.leadsToName_join (descends : Descends path) (base : String) :
    LeadsToName (join base path) := by
  obtain ⟨front, whole, _⟩ := descends.parts_join base
  refine ⟨(parts path).getLast (parts_ne_nil path), ?_,
    descends.parts_isName _ (List.getLast_mem _)⟩
  rw [whole, List.getLast?_append_of_ne_nil _ (parts_ne_nil path),
    List.getLast?_eq_some_getLast (parts_ne_nil path)]
  rfl

/-- The parent of a joined path leads along the directory and all parts of the path but its last. -/
theorem Path.Descends.steps_parent_join (descends : Descends path) (base : String) :
    steps (parent (join base path)) = steps base ++ (parts path).dropLast := by
  obtain ⟨name, _, split⟩ := steps_parent (descends.leadsToName_join base)
  rw [descends.steps_join] at split
  rw [← List.dropLast_append_of_ne_nil (parts_ne_nil path), split, List.dropLast_concat]

end QuizPackage
