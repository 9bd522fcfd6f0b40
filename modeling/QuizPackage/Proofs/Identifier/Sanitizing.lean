import QuizPackage.Proofs.Identifier.Base
import Mathlib.Data.List.DropRight

namespace QuizPackage

/-- Text that collapsing leaves as it is when `last` was written before it. An underscore stands
only after a character that is not one. -/
inductive IsCollapsed : Option Char → List Char → Prop
  | nil (last : Option Char) : IsCollapsed last []
  | cons {last : Option Char} {c : Char} {rest : List Char} (allowed : isBaseChar c = true)
      (apart : c = '_' → last ≠ none ∧ last ≠ some '_') (after : IsCollapsed (some c) rest) :
      IsCollapsed last (c :: rest)

/-- A text ends in a character that is no joiner. -/
def EndsWhole (text : String) : Prop :=
  ∃ last ∈ text.toList.getLast?, isJoiner last = false

/-- Text that sanitizing leaves as it is, if anything is left of it at all. -/
structure IsSanitized (text : String) : Prop where
  collapsed : IsCollapsed none text.toList
  short : text.length ≤ greatestBaseLength
  whole : EndsWhole text

variable {last : Option Char} {front back : List Char} {text tail hint : String} {c : Char}

theorem EndsWhole.append (whole : EndsWhole tail) (text : String) : EndsWhole (text ++ tail) := by
  obtain ⟨last, ending, plain⟩ := whole
  refine ⟨last, ?_, plain⟩
  rw [String.toList_append, List.getLast?_append, Option.mem_def.mp ending]
  rfl

/-- A text that a line was added to does not end whole. -/
theorem not_endsWhole_line (text : String) : ¬EndsWhole (text ++ "_") := by
  rintro ⟨last, ending, plain⟩
  rw [String.toList_append, List.getLast?_append] at ending
  cases ending
  cases plain

theorem dropJoiners_of_endsWhole {letters : List Char}
    (whole : ∃ last ∈ letters.getLast?, isJoiner last = false) : dropJoiners letters = letters := by
  obtain ⟨last, ending, plain⟩ := whole
  obtain ⟨before, rfl⟩ := List.getLast?_eq_some_iff.mp ending
  simp [dropJoiners, plain]

theorem dropJoiners_endsWhole {letters : List Char} (left : dropJoiners letters ≠ []) :
    ∃ last ∈ (dropJoiners letters).getLast?, isJoiner last = false :=
  ⟨_, List.getLast?_eq_some_getLast left,
    Bool.eq_false_iff.mpr (List.rdropWhile_last_not isJoiner letters left)⟩

theorem dropJoiners_starts (letters : List Char) : dropJoiners letters <+: letters :=
  List.rdropWhile_prefix isJoiner letters

theorem dropJoiners_eq_nil_iff {letters : List Char} :
    dropJoiners letters = [] ↔ ∀ c ∈ letters, isJoiner c = true :=
  List.rdropWhile_eq_nil_iff

/-- No letter, digit or mark that is kept becomes an underscore. -/
theorem toLower_ne_line (kept : isKept c = true) : c.toLower ≠ '_' := by
  have checked := of_ascii (fun c => !isKept c || c.toLower != '_') (by decide) (isKept_ascii kept)
  simpa [kept] using checked

theorem collapse_isCollapsed (last : Option Char) (letters : List Char) :
    IsCollapsed last (collapse last letters) := by
  fun_induction collapse last letters with
  | case1 => exact .nil _
  | case2 last c rest kept ih =>
      exact .cons (isBaseChar_toLower kept) (fun line => absurd line (toLower_ne_line kept)) ih
  | case3 last c rest dropped repeated ih => exact ih
  | case4 last c rest dropped single ih => exact .cons rfl (fun _ => by simpa using single) ih

theorem isKept_of_isBaseChar (allowed : isBaseChar c = true) (other : c ≠ '_') :
    isKept c = true ∧ c.toLower = c := by
  have checked := of_ascii
    (fun c => !isBaseChar c || c == '_' || (isKept c && c.toLower == c)) (by decide)
    (isBaseChar_ascii allowed)
  simpa [allowed, other] using checked

theorem IsCollapsed.collapse_eq {letters : List Char} (collapsed : IsCollapsed last letters) :
    collapse last letters = letters := by
  induction collapsed with
  | nil => rfl
  | @cons last c rest allowed apart after ih =>
      by_cases line : c = '_'
      · subst line
        obtain ⟨started, single⟩ := apart rfl
        have dropped : isKept '_' = false := by decide
        simp [collapse, dropped, started, single, ih]
      · obtain ⟨kept, small⟩ := isKept_of_isBaseChar allowed line
        simp [collapse, kept, small, ih]

theorem IsCollapsed.of_append (collapsed : IsCollapsed last (front ++ back)) :
    IsCollapsed last front := by
  induction front generalizing last with
  | nil => exact .nil _
  | cons c rest ih =>
      cases collapsed with
      | cons allowed apart after => exact .cons allowed apart (ih after)

/-- Text that can stand at the start can stand anywhere, since no underscore starts it. -/
theorem IsCollapsed.anywhere {letters : List Char} (collapsed : IsCollapsed none letters)
    (last : Option Char) : IsCollapsed last letters := by
  cases collapsed with
  | nil => exact .nil _
  | cons allowed apart after =>
      exact .cons allowed (fun line => ((apart line).1 rfl).elim) after

theorem IsCollapsed.isBaseChar {letters : List Char} (collapsed : IsCollapsed last letters) :
    ∀ c ∈ letters, isBaseChar c = true := by
  induction collapsed with
  | nil => simp
  | cons allowed _ _ ih => exact List.forall_mem_cons.mpr ⟨allowed, ih⟩

theorem IsCollapsed.head?_ne_line {letters : List Char} (collapsed : IsCollapsed none letters) :
    letters.head? ≠ some '_' := by
  cases collapsed with
  | nil => simp
  | cons allowed apart after => exact fun start => (apart (Option.some.inj start)).1 rfl

theorem IsCollapsed.not_infix_lines {letters : List Char} (collapsed : IsCollapsed last letters) :
    ¬['_', '_'] <:+: letters := by
  induction collapsed with
  | nil => simp
  | @cons last c rest allowed apart after ih =>
      rw [List.infix_cons_iff]
      rintro (starts | inside)
      · obtain ⟨line, tail, rfl⟩ := List.cons_prefix_cons.mp starts
        cases after with
        | cons _ single _ => exact (single rfl).2 (congrArg some line.symm)
      · exact ih inside

theorem isBlank_of_isKept (kept : isKept c = true) : Text.isBlank c = false := by
  have checked := of_ascii (fun c => !isKept c || !Text.isBlank c) (by decide) (isKept_ascii kept)
  simpa [kept] using checked

theorem isBlank_of_isBaseChar (allowed : isBaseChar c = true) : Text.isBlank c = false := by
  by_cases line : c = '_'
  · rw [line]
    rfl
  · exact isBlank_of_isKept (isKept_of_isBaseChar allowed line).1

theorem dropWhile_isBlank {letters : List Char}
    (allowed : ∀ c ∈ letters, isBaseChar c = true) : letters.dropWhile Text.isBlank = letters := by
  cases letters with
  | nil => rfl
  | cons c rest => simp [isBlank_of_isBaseChar (allowed c List.mem_cons_self)]

theorem trimChars_of_isBaseChar {letters : List Char}
    (allowed : ∀ c ∈ letters, isBaseChar c = true) : Text.trimChars letters = letters := by
  rw [Text.trimChars, dropWhile_isBlank allowed,
    dropWhile_isBlank fun c member => allowed c (List.mem_reverse.mp member), List.reverse_reverse]

theorem sanitize_starts (hint : String) : (sanitize hint).toList <+:
    (collapse none (Text.trimChars hint.toList)).take greatestBaseLength := by
  rw [sanitize, String.toList_ofList]
  exact dropJoiners_starts _

theorem endsWhole_sanitize (left : sanitize hint ≠ "") : EndsWhole (sanitize hint) := by
  have filled : sanitizeChars hint.toList ≠ [] := by
    intro nothing
    exact left (congrArg String.ofList nothing)
  rw [EndsWhole, sanitize, String.toList_ofList]
  exact dropJoiners_endsWhole filled

theorem length_sanitize_le (hint : String) : (sanitize hint).length ≤ greatestBaseLength := by
  rw [← String.length_toList]
  exact Nat.le_trans (sanitize_starts hint).length_le (List.length_take_le _ _)

theorem isCollapsed_sanitize (hint : String) : IsCollapsed none (sanitize hint).toList := by
  obtain ⟨dropped, split⟩ := (sanitize_starts hint).trans (List.take_prefix _ _)
  have collapsed := collapse_isCollapsed none (Text.trimChars hint.toList)
  rw [← split] at collapsed
  exact collapsed.of_append

theorem isSanitized_sanitize (left : sanitize hint ≠ "") : IsSanitized (sanitize hint) :=
  ⟨isCollapsed_sanitize hint, length_sanitize_le hint, endsWhole_sanitize left⟩

theorem IsSanitized.sanitize_eq (sanitized : IsSanitized text) : sanitize text = text := by
  obtain ⟨collapsed, short, whole⟩ := sanitized
  rw [← String.length_toList] at short
  rw [sanitize, sanitizeChars, trimChars_of_isBaseChar collapsed.isBaseChar,
    collapsed.collapse_eq, List.take_of_length_le short, dropJoiners_of_endsWhole whole,
    String.ofList_toList]

theorem sanitize_sanitize (hint : String) : sanitize (sanitize hint) = sanitize hint := by
  by_cases left : sanitize hint = ""
  · rw [left]
    rfl
  · exact (isSanitized_sanitize left).sanitize_eq

/-- A hint that starts with a letter and is as short as a base is the base of its identifier. -/
theorem IsSanitized.baseFor_eq (sanitized : IsSanitized text) (kind : IdentifierKind)
    (letter : ∃ first ∈ text.toList.head?, first.isAlpha = true) :
    baseFor kind (some text) = text := by
  obtain ⟨first, start, alpha⟩ := letter
  obtain ⟨rest, letters⟩ := List.head?_eq_some_iff.mp start
  simp [baseFor, sanitized.sanitize_eq, letters, alpha]

theorem IdentifierKind.endsWhole_stem (kind : IdentifierKind) : EndsWhole kind.stem := by
  cases kind <;> exact ⟨_, rfl, rfl⟩

theorem endsWhole_baseFor (kind : IdentifierKind) (hint : Option String) :
    EndsWhole (baseFor kind hint) := by
  unfold baseFor
  dsimp only
  split
  · exact kind.endsWhole_stem
  · rename_i first rest letters
    have whole : EndsWhole ((hint.map sanitize).getD "") := by
      cases hint with
      | none => cases letters
      | some hint =>
          refine (isSanitized_sanitize fun nothing => ?_).whole
          simp [nothing] at letters
    split
    · exact whole
    · exact whole.append _

theorem endsWhole_repr (number : Nat) : EndsWhole (toString number) := by
  rw [EndsWhole, Nat.toString_eq_repr, Nat.toList_repr]
  have filled : Nat.toDigits 10 number ≠ [] := Nat.toDigits_ne_nil
  refine ⟨_, List.getLast?_eq_some_getLast filled, ?_⟩
  have digit : ((Nat.toDigits 10 number).getLast filled).isDigit = true :=
    Nat.isDigit_of_mem_toDigits (by decide) (by decide) (List.getLast_mem filled)
  have kept : isKept ((Nat.toDigits 10 number).getLast filled) = true := by
    simp [isKept, Char.isAlphanum, digit]
  have checked := of_ascii (fun c => !c.isDigit || !isJoiner c) (by decide) (isKept_ascii kept)
  simpa [digit] using checked

theorem EndsWhole.firstFree {base : String} (whole : EndsWhole base) (taken : List String) :
    EndsWhole (firstFree base taken) := by
  by_cases used : base ∈ taken
  · obtain ⟨number, _, result, _⟩ := firstFree_of_taken used
    rw [result]
    exact (endsWhole_repr number).append _
  · rwa [firstFree_of_free used]

end QuizPackage
