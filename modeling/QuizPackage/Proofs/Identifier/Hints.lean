import QuizPackage.Proofs.Identifier.Sanitizing

/-!
# What is left of hints

A letter or digit of a hint keeps its identifier from being empty only if it is written among the
first characters of the collapsed hint, the only ones that are not cut off. Where it is written
depends on what stands before it in the hint, and blank characters at the ends of the hint make no
difference.
-/

namespace QuizPackage

/-- A hint as sanitizing cuts it: without the blank characters at its ends, and collapsed. -/
def collapsedHint (hint : String) : String :=
  String.ofList (collapse none (Text.trimChars hint.toList))

/-- A character that a hint keeps is written at a place of the collapsed hint: what stands before it
in the hint takes up the places before. -/
def IsWrittenAt (hint : String) (c : Char) (place : Nat) : Prop :=
  isKept c = true ∧
    ∃ front back, hint.toList = front ++ c :: back ∧ (collapse none front).length = place

variable {last : Option Char} {letters : List Char} {hint : String} {c : Char} {place : Nat}

theorem collapse_append (last : Option Char) (front back : List Char) :
    collapse last (front ++ back) =
      collapse last front ++ collapse ((collapse last front).getLast?.or last) back := by
  fun_induction collapse last front with
  | case1 last => rfl
  | case2 last c rest kept ih => simp [collapse, kept, ih, List.getLast?_cons]
  | case3 last c rest dropped repeated ih =>
      rw [List.cons_append, collapse, if_neg dropped, if_pos repeated, ih]
  | case4 last c rest dropped single ih =>
      rw [List.cons_append, collapse, if_neg dropped, if_neg single, ih]
      simp [List.getLast?_cons]

theorem collapse_getElem?_of_kept (last : Option Char) (front back : List Char)
    (kept : isKept c = true) :
    (collapse last (front ++ c :: back))[(collapse last front).length]? = some c.toLower := by
  rw [collapse_append, List.getElem?_append_right (Nat.le_refl _), Nat.sub_self, collapse,
    if_pos kept]
  rfl

/-- Whatever collapsed text holds apart from underscores was kept, and stands where the text before
it ends. -/
theorem exists_kept_of_collapse_getElem? (written : (collapse last letters)[place]? = some c)
    (other : c ≠ '_') :
    ∃ front source back, letters = front ++ source :: back ∧ isKept source = true ∧
      source.toLower = c ∧ (collapse last front).length = place := by
  fun_induction collapse last letters generalizing place with
  | case1 last => cases written
  | case2 last first rest kept ih =>
      cases place with
      | zero => exact ⟨[], first, rest, rfl, kept, Option.some.inj written, rfl⟩
      | succ place =>
          obtain ⟨front, source, back, rfl, sourceKept, small, before⟩ := ih written
          refine ⟨first :: front, source, back, rfl, sourceKept, small, ?_⟩
          rw [collapse, if_pos kept, List.length_cons, before]
  | case3 last first rest dropped repeated ih =>
      -- What is dropped takes up no place, so the later characters keep theirs.
      obtain ⟨front, source, back, rfl, sourceKept, small, before⟩ := ih written
      refine ⟨first :: front, source, back, rfl, sourceKept, small, ?_⟩
      rw [collapse, if_neg dropped, if_pos repeated, before]
  | case4 last first rest dropped single ih =>
      cases place with
      | zero => exact absurd (Option.some.inj written).symm other
      | succ place =>
          obtain ⟨front, source, back, rfl, sourceKept, small, before⟩ := ih written
          refine ⟨first :: front, source, back, rfl, sourceKept, small, ?_⟩
          rw [collapse, if_neg dropped, if_neg single, List.length_cons, before]

theorem trimChars_between (letters : List Char) :
    ∃ lead trail, letters = lead ++ (Text.trimChars letters ++ trail) ∧
      (∀ c ∈ lead, Text.isBlank c = true) ∧ ∀ c ∈ trail, Text.isBlank c = true := by
  refine ⟨letters.takeWhile Text.isBlank,
    (letters.dropWhile Text.isBlank).rtakeWhile Text.isBlank, ?_,
    fun _ => List.mem_takeWhile_imp, fun _ => List.mem_rtakeWhile_imp⟩
  calc letters
      = letters.takeWhile Text.isBlank ++ letters.dropWhile Text.isBlank :=
        List.takeWhile_append_dropWhile.symm
    _ = _ := congrArg _ List.rdropWhile_append_rtakeWhile.symm

theorem eq_line_of_mem_collapse (blank : ∀ c ∈ letters, Text.isBlank c = true)
    (member : c ∈ collapse last letters) : c = '_' := by
  by_contra other
  obtain ⟨place, written⟩ := List.mem_iff_getElem?.mp member
  obtain ⟨front, source, back, rfl, kept, -⟩ := exists_kept_of_collapse_getElem? written other
  have sourceBlank := blank source (List.mem_append_right front List.mem_cons_self)
  rw [isBlank_of_isKept kept] at sourceBlank
  cases sourceBlank

theorem collapse_none_of_blank (blank : ∀ c ∈ letters, Text.isBlank c = true) :
    collapse none letters = [] := by
  have start := (collapse_isCollapsed none letters).head?_ne_line
  have lines : ∀ c ∈ collapse none letters, c = '_' := fun _ => eq_line_of_mem_collapse blank
  cases shape : collapse none letters with
  | nil => rfl
  | cons first rest =>
      rw [shape] at start lines
      exact absurd (congrArg some (lines first List.mem_cons_self)) start

/-- Trimming takes nothing but underscores from the end of what a text collapses to. -/
theorem collapse_trimChars (letters : List Char) :
    ∃ tail, collapse none letters = collapse none (Text.trimChars letters) ++ tail ∧
      ∀ c ∈ tail, c = '_' := by
  obtain ⟨lead, trail, split, leadBlank, trailBlank⟩ := trimChars_between letters
  refine ⟨collapse ((collapse none (Text.trimChars letters)).getLast?.or none) trail, ?_,
    fun _ => eq_line_of_mem_collapse trailBlank⟩
  calc collapse none letters
      = collapse none (lead ++ (Text.trimChars letters ++ trail)) := congrArg _ split
    _ = collapse none (Text.trimChars letters ++ trail) := by
        rw [collapse_append, collapse_none_of_blank leadBlank]
        rfl
    _ = _ := collapse_append _ _ _

theorem collapsedHint_getElem?_untrimmed (other : c ≠ '_') :
    (collapsedHint hint).toList[place]? = some c ↔
      (collapse none hint.toList)[place]? = some c := by
  obtain ⟨tail, split, lines⟩ := collapse_trimChars hint.toList
  rw [collapsedHint, String.toList_ofList, split, List.getElem?_append]
  split_ifs with within
  · rfl
  · rw [List.getElem?_eq_none (Nat.le_of_not_lt within)]
    exact iff_of_false nofun fun written => other (lines c (List.mem_of_getElem? written))

/-- The characters of a collapsed hint apart from underscores are those written at their places. -/
theorem collapsedHint_getElem?_iff (other : c ≠ '_') :
    (collapsedHint hint).toList[place]? = some c ↔
      ∃ source, IsWrittenAt hint source place ∧ source.toLower = c := by
  rw [collapsedHint_getElem?_untrimmed other]
  constructor
  · intro written
    obtain ⟨front, source, back, parts, kept, small, before⟩ :=
      exists_kept_of_collapse_getElem? written other
    exact ⟨source, ⟨kept, front, back, parts, before⟩, small⟩
  · rintro ⟨source, ⟨kept, front, back, parts, rfl⟩, rfl⟩
    rw [parts]
    exact collapse_getElem?_of_kept none front back kept

theorem isJoiner_toLower (kept : isKept c = true) : isJoiner c.toLower = !c.isAlphanum := by
  have checked := of_ascii (fun c => !isKept c || isJoiner c.toLower == !c.isAlphanum) (by decide)
    (isKept_ascii kept)
  simpa [kept] using checked

theorem sanitize_eq_empty_iff (hint : String) :
    sanitize hint = "" ↔
      ∀ c place, IsWrittenAt hint c place → place < greatestBaseLength → c.isAlphanum = false := by
  have joiners : sanitize hint = "" ↔
      ∀ c ∈ (collapsedHint hint).toList.take greatestBaseLength, isJoiner c = true := by
    rw [sanitize, String.ofList_eq_empty_iff, collapsedHint, String.toList_ofList]
    exact dropJoiners_eq_nil_iff
  rw [joiners]
  constructor
  · intro joined c place written within
    have placed : ((collapsedHint hint).toList.take greatestBaseLength)[place]? =
        some c.toLower := by
      rw [List.getElem?_take, if_pos within,
        (collapsedHint_getElem?_iff (toLower_ne_line written.1)).mpr ⟨c, written, rfl⟩]
    have joiner := joined c.toLower (List.mem_of_getElem? placed)
    rw [isJoiner_toLower written.1] at joiner
    simpa using joiner
  · intro plain c member
    by_cases line : c = '_'
    · rw [line]
      rfl
    · obtain ⟨place, placed⟩ := List.mem_iff_getElem?.mp member
      rw [List.getElem?_take] at placed
      split_ifs at placed with within
      obtain ⟨source, written, rfl⟩ := (collapsedHint_getElem?_iff line).mp placed
      rw [isJoiner_toLower written.1, plain source place written within]
      rfl

theorem utf8Size_of_ascii (ascii : c.toNat < 128) : c.utf8Size = 1 :=
  Char.utf8Size_eq_one_iff.mpr (UInt32.le_iff_toNat_le.mpr (Nat.le_of_lt_succ ascii))

theorem utf8ByteSize_of_ascii (ascii : ∀ c ∈ letters, c.toNat < 128) :
    (String.ofList letters).utf8ByteSize = letters.length := by
  induction letters with
  | nil => rfl
  | cons c rest ih =>
      rw [List.forall_mem_cons] at ascii
      rw [String.ofList_cons, String.utf8ByteSize_append, String.utf8ByteSize_singleton,
        utf8Size_of_ascii ascii.1, ih ascii.2, List.length_cons, Nat.add_comm]

/-- Text of one byte a character can be cut behind any byte: its first bytes are those of its first
characters. -/
theorem toByteArray_take_of_ascii (ascii : ∀ c ∈ letters, c.toNat < 128) (size : Nat) :
    (String.ofList (letters.take size)).toByteArray =
      (String.ofList letters).toByteArray.extract 0 size := by
  rcases Nat.le_total letters.length size with short | long
  · have whole : (String.ofList letters).toByteArray.size ≤ size := by
      rwa [String.size_toByteArray, utf8ByteSize_of_ascii ascii]
    rw [List.take_of_length_le short, ← Nat.max_eq_left whole, ByteArray.extract_zero_max_size]
  · have cut : size = (String.ofList (letters.take size)).toByteArray.size := by
      rw [String.size_toByteArray, utf8ByteSize_of_ascii fun c member =>
        ascii c (List.mem_of_mem_take member), List.length_take_of_le long]
    calc (String.ofList (letters.take size)).toByteArray
        = ((String.ofList (letters.take size)).toByteArray ++
            (String.ofList (letters.drop size)).toByteArray).extract 0 size :=
          (ByteArray.extract_append_eq_left cut).symm
      _ = (String.ofList letters).toByteArray.extract 0 size := by
          rw [← String.toByteArray_append, ← String.ofList_append, List.take_append_drop]

theorem collapsedHint_ascii (hint : String) : ∀ c ∈ (collapsedHint hint).toList, c.toNat < 128 := by
  intro c member
  rw [collapsedHint, String.toList_ofList] at member
  exact isBaseChar_ascii (isBaseChar_of_mem_collapse member)

/-- What is left of a hint is at most forty small letters, digits and joiners, which do not start
with an underscore, hold no two in a row and do not end in a joiner. It is the collapsed hint cut
behind forty bytes, which are whole characters, without the joiners at the end. Sanitizing it again
changes nothing. Nothing is left exactly of the hints that have no letter or digit among the
characters written at the first forty places. -/
theorem sanitized_hint_is_short_plain_text (hint : String) :
    (sanitize hint).length ≤ 40 ∧
      (∀ c ∈ (sanitize hint).toList, c.isLower || c.isDigit || isJoiner c) ∧
      (sanitize hint).toList.head? ≠ some '_' ∧
      (∀ last ∈ (sanitize hint).toList.getLast?, isJoiner last = false) ∧
      ¬['_', '_'] <:+: (sanitize hint).toList ∧
      (∃ cut : String, cut.toByteArray = (collapsedHint hint).toByteArray.extract 0 40 ∧
        cut.toList = (collapsedHint hint).toList.take 40 ∧
        (sanitize hint).toList = dropJoiners cut.toList) ∧
      sanitize (sanitize hint) = sanitize hint ∧
      (sanitize hint = "" ↔
        ∀ c place, IsWrittenAt hint c place → place < 40 → c.isAlphanum = false) := by
  have collapsed := isCollapsed_sanitize hint
  refine ⟨length_sanitize_le hint, collapsed.isBaseChar, collapsed.head?_ne_line,
    fun last ending => ?_, collapsed.not_infix_lines,
    ⟨String.ofList ((collapsedHint hint).toList.take 40), ?_, String.toList_ofList, ?_⟩,
    sanitize_sanitize hint, sanitize_eq_empty_iff hint⟩
  · have left : sanitize hint ≠ "" := by
      intro nothing
      rw [nothing] at ending
      cases ending
    obtain ⟨other, sameEnding, plain⟩ := endsWhole_sanitize left
    rwa [Option.mem_unique ending sameEnding]
  · rw [toByteArray_take_of_ascii (collapsedHint_ascii hint), String.ofList_toList]
  · rw [sanitize, String.toList_ofList, String.toList_ofList, collapsedHint, String.toList_ofList]
    rfl

/-- The last letter that is not cut off keeps thirty-nine hyphens before it from being dropped. -/
theorem hyphens_stay_before_last_letter :
    let hint := "¿---------------------------------------B – c"
    'b' ∈ (sanitize hint).toList ∧ 'b' ∈ (sanitize hint).toList.getLast? ∧
      IsWrittenAt hint 'B' 39 ∧ 39 < 40 ∧
      ('b'.isLower || 'b'.isDigit || isJoiner 'b') ∧ isJoiner 'b' = false ∧ sanitize hint ≠ "" := by
  intro hint
  have member : 'b' ∈ (sanitize hint).toList := by decide +kernel
  have ending : 'b' ∈ (sanitize hint).toList.getLast? := by decide +kernel
  have written : IsWrittenAt hint 'B' 39 :=
    ⟨rfl, '¿' :: List.replicate 39 '-', " – c".toList, by decide +kernel, by decide +kernel⟩
  obtain ⟨-, allowed, -, whole, -, -, -, empty⟩ := sanitized_hint_is_short_plain_text hint
  refine ⟨member, ending, written, by decide, allowed 'b' member, whole 'b' ending,
    fun nothing => ?_⟩
  have plain := empty.mp nothing 'B' 39 written (by decide)
  cases plain

/-- One hyphen more and the letter is cut off, so nothing is left. -/
example : sanitize "----------------------------------------B – c" = "" := by decide +kernel

end QuizPackage
