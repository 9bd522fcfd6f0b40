import QuizPackage.Identifier.Base
import Mathlib.Data.List.Nodup

namespace QuizPackage

theorem repr_injective : Function.Injective Nat.repr := by
  intro first second same
  have listed : Nat.toDigits 10 first = Nat.toDigits 10 second := by
    simpa using congrArg String.toList same
  rw [← Nat.ofDigitChars_ten_toDigits (n := first), listed, Nat.ofDigitChars_ten_toDigits]

theorem numbered_injective (base : String) : Function.Injective (numbered base) := by
  intro first second equal
  have digits : Nat.repr first = Nat.repr second := by
    simpa [numbered, String.append_assoc] using equal
  exact repr_injective digits

theorem numbered_ne_base (base : String) (number : Nat) : numbered base number ≠ base := by
  intro equal
  have lengths := congrArg String.length equal
  have line : "_".length = 1 := rfl
  simp only [numbered, String.length_append, line] at lengths
  omega

/-- The search passes over taken numbers only, and stops at one that is free unless it runs out of
attempts. -/
theorem firstFreeFrom_spec (base : String) (taken : List String) (fuel number : Nat) :
    ∃ found, number ≤ found ∧ found ≤ number + fuel ∧
      firstFreeFrom base taken fuel number = numbered base found ∧
      (∀ passed, number ≤ passed → passed < found → numbered base passed ∈ taken) ∧
      (found < number + fuel → numbered base found ∉ taken) := by
  induction fuel generalizing number with
  | zero => exact ⟨number, by omega, by omega, rfl, by omega, by omega⟩
  | succ fuel ih =>
      by_cases used : numbered base number ∈ taken
      · obtain ⟨found, lower, upper, result, passedOver, free⟩ := ih (number + 1)
        refine ⟨found, by omega, by omega, ?_, ?_, fun bound => free (by omega)⟩
        · simp [firstFreeFrom, used, result]
        · intro passed atLeast below
          rcases Nat.eq_or_lt_of_le atLeast with rfl | later
          · exact used
          · exact passedOver passed later below
      · exact ⟨number, by omega, by omega, by simp [firstFreeFrom, used], by omega, fun _ => used⟩

/-- The base and as many numbered ones as there are taken names cannot all be taken. -/
theorem exists_free_number {base : String} {taken : List String} (used : base ∈ taken) :
    ∃ number, 2 ≤ number ∧ number < 2 + taken.length ∧ numbered base number ∉ taken := by
  by_contra allTaken
  push Not at allTaken
  let candidates := base :: (List.range' 2 taken.length).map (numbered base)
  have distinct : candidates.Nodup := by
    refine List.nodup_cons.mpr ⟨?_, List.Nodup.map (numbered_injective base) List.nodup_range'⟩
    simp [numbered_ne_base]
  have included : candidates ⊆ taken := by
    intro name member
    rcases List.mem_cons.mp member with rfl | member
    · exact used
    · obtain ⟨number, range, rfl⟩ := List.mem_map.mp member
      have bounds := List.mem_range'_1.mp range
      exact allTaken number bounds.1 bounds.2
  have few := distinct.length_le_of_subset included
  simp only [candidates, List.length_cons, List.length_map, List.length_range'] at few
  omega

/-- With as many attempts as there are taken names, the search stops at the least number from two on
that is free. -/
theorem firstFreeFrom_of_taken {base : String} {taken : List String} {attempts : Nat}
    (used : base ∈ taken) (enough : taken.length ≤ attempts) :
    ∃ number, 2 ≤ number ∧ firstFreeFrom base taken attempts 2 = numbered base number ∧
      numbered base number ∉ taken ∧
      ∀ passed, 2 ≤ passed → passed < number → numbered base passed ∈ taken := by
  obtain ⟨found, lower, upper, result, passedOver, free⟩ :=
    firstFreeFrom_spec base taken attempts 2
  obtain ⟨number, atLeast, below, unused⟩ := exists_free_number used
  have notPast : found ≤ number := by
    by_contra past
    exact unused (passedOver number atLeast (by omega))
  exact ⟨found, lower, result, free (by omega), passedOver⟩

theorem firstFree_of_used {base : String} {taken : List String} (used : base ∈ taken) :
    firstFree base taken = firstFreeFrom base taken taken.length 2 := by
  simp [firstFree, used]

/-- A base that is taken gets the least number from two on that is not. -/
theorem firstFree_of_taken {base : String} {taken : List String} (used : base ∈ taken) :
    ∃ number, 2 ≤ number ∧ firstFree base taken = numbered base number ∧
      numbered base number ∉ taken ∧
      ∀ passed, 2 ≤ passed → passed < number → numbered base passed ∈ taken := by
  rw [firstFree_of_used used]
  exact firstFreeFrom_of_taken used (Nat.le_refl _)

theorem firstFree_of_free {base : String} {taken : List String} (free : base ∉ taken) :
    firstFree base taken = base := by
  simp [firstFree, free]

theorem firstFree_not_mem (base : String) (taken : List String) :
    firstFree base taken ∉ taken := by
  by_cases used : base ∈ taken
  · obtain ⟨number, _, result, free, _⟩ := firstFree_of_taken used
    rwa [result]
  · rwa [firstFree_of_free used]

def isBaseChar (c : Char) : Bool :=
  c.isLower || c.isDigit || isJoiner c

def isVariableChar (c : Char) : Bool :=
  c.isUpper || c.isDigit || isJoiner c

/-- A text of allowed characters that starts with a letter. -/
structure Shaped (allowed : Char → Bool) (text : String) : Prop where
  letter : ∃ first ∈ text.toList.head?, first.isAlpha = true
  allowed : ∀ c ∈ text.toList, allowed c = true

/-- What holds of the first 128 codes holds of every such character. -/
theorem of_ascii (holds : Char → Bool) (checked : ∀ code < 128, holds (Char.ofNat code))
    {c : Char} (ascii : c.toNat < 128) : holds c := by
  rw [← Char.ofNat_toNat c]
  exact checked c.toNat ascii

theorem isKept_ascii {c : Char} (kept : isKept c = true) : c.toNat < 128 := by
  delta isKept Char.isAlphanum Char.isAlpha Char.isUpper Char.isLower Char.isDigit at kept
  simp only [Bool.or_eq_true, Bool.and_eq_true, decide_eq_true_eq, beq_iff_eq, ge_iff_le,
    UInt32.le_iff_toNat_le] at kept
  change c.val.toNat < 128
  rcases kept with (((⟨_, upper⟩ | ⟨_, upper⟩) | ⟨_, upper⟩) | rfl) | rfl
  · exact Nat.lt_of_le_of_lt upper (by decide)
  · exact Nat.lt_of_le_of_lt upper (by decide)
  · exact Nat.lt_of_le_of_lt upper (by decide)
  · decide
  · decide

theorem isBaseChar_ascii {c : Char} (allowed : isBaseChar c = true) : c.toNat < 128 := by
  by_cases line : c = '_'
  · subst line
    decide
  · apply isKept_ascii
    delta isKept Char.isAlphanum Char.isAlpha
    simp only [isBaseChar, isJoiner, Bool.or_eq_true, beq_iff_eq] at allowed ⊢
    tauto

theorem isBaseChar_toLower {c : Char} (kept : isKept c = true) : isBaseChar c.toLower = true := by
  have checked := of_ascii (fun c => !isKept c || isBaseChar c.toLower) (by decide)
    (isKept_ascii kept)
  simpa [kept] using checked

theorem isVariableChar_toUpper {c : Char} (allowed : isBaseChar c = true) :
    isVariableChar c.toUpper = true := by
  have checked := of_ascii (fun c => !isBaseChar c || isVariableChar c.toUpper) (by decide)
    (isBaseChar_ascii allowed)
  simpa [allowed] using checked

theorem isAlpha_toUpper {c : Char} (allowed : isBaseChar c = true) (letter : c.isAlpha = true) :
    c.toUpper.isAlpha = true := by
  have checked := of_ascii (fun c => !c.isAlpha || c.toUpper.isAlpha) (by decide)
    (isBaseChar_ascii allowed)
  rw [letter] at checked
  exact checked

theorem isBaseChar_of_mem_collapse {last : Option Char} {text : List Char} {c : Char}
    (member : c ∈ collapse last text) : isBaseChar c = true := by
  fun_induction collapse last text with
  | case1 => cases member
  | case2 last first rest kept ih =>
      rcases List.mem_cons.mp member with rfl | member
      · exact isBaseChar_toLower kept
      · exact ih member
  | case3 last first rest dropped repeated ih => exact ih member
  | case4 last first rest dropped single ih =>
      rcases List.mem_cons.mp member with rfl | member
      · decide
      · exact ih member

theorem isBaseChar_of_mem_sanitize {hint : String} {c : Char}
    (member : c ∈ (sanitize hint).toList) : isBaseChar c = true := by
  simp only [sanitize, String.toList_ofList, sanitizeChars, dropJoiners, List.mem_reverse] at member
  have kept := (List.dropWhile_sublist isJoiner).subset member
  exact isBaseChar_of_mem_collapse (List.mem_of_mem_take (List.mem_reverse.mp kept))

theorem Shaped.ne_empty {allowed : Char → Bool} {text : String} (shaped : Shaped allowed text) :
    text ≠ "" := by
  rintro rfl
  obtain ⟨first, start, _⟩ := shaped.letter
  cases start

theorem Shaped.append {allowed : Char → Bool} {text tail : String} (shaped : Shaped allowed text)
    (extra : ∀ c ∈ tail.toList, allowed c = true) : Shaped allowed (text ++ tail) := by
  obtain ⟨first, start, letter⟩ := shaped.letter
  refine ⟨⟨first, ?_, letter⟩, ?_⟩
  · rw [String.toList_append, List.head?_append, Option.mem_def.mp start]
    rfl
  · intro c member
    rw [String.toList_append] at member
    rcases List.mem_append.mp member with member | member
    · exact shaped.allowed c member
    · exact extra c member

theorem IdentifierKind.shaped_stem (kind : IdentifierKind) : Shaped isBaseChar kind.stem := by
  refine ⟨?_, ?_⟩
  · cases kind <;> exact ⟨_, rfl, rfl⟩
  · apply List.all_eq_true.mp
    cases kind <;> rfl

theorem shaped_baseFor (kind : IdentifierKind) (hint : Option String) :
    Shaped isBaseChar (baseFor kind hint) := by
  have allowed : ∀ c ∈ ((hint.map sanitize).getD "").toList, isBaseChar c = true := by
    intro c member
    cases hint with
    | none => simp at member
    | some hint => exact isBaseChar_of_mem_sanitize member
  unfold baseFor
  dsimp only
  split
  · exact kind.shaped_stem
  · rename_i first rest characters
    split
    · rename_i letter
      exact ⟨⟨first, by simp [characters], letter⟩, allowed⟩
    · refine (kind.shaped_stem.append ?_).append allowed
      exact List.all_eq_true.mp rfl

/-- A class of characters that numbers can be written in. -/
structure HoldsNumbers (allowed : Char → Bool) : Prop where
  digit : ∀ c : Char, c.isDigit = true → allowed c = true
  line : allowed '_' = true

theorem holdsNumbers_base : HoldsNumbers isBaseChar :=
  ⟨fun c digit => by simp [isBaseChar, digit], rfl⟩

theorem holdsNumbers_variable : HoldsNumbers isVariableChar :=
  ⟨fun c digit => by simp [isVariableChar, digit], rfl⟩

theorem Shaped.numbered {allowed : Char → Bool} {base : String} (numbers : HoldsNumbers allowed)
    (shaped : Shaped allowed base) (number : Nat) : Shaped allowed (numbered base number) := by
  refine (shaped.append ?_).append ?_
  · simpa using numbers.line
  · intro c member
    rw [Nat.toString_eq_repr, Nat.toList_repr] at member
    exact numbers.digit c (Nat.isDigit_of_mem_toDigits (by decide) (by decide) member)

theorem Shaped.firstFree {allowed : Char → Bool} {base : String} (numbers : HoldsNumbers allowed)
    (shaped : Shaped allowed base) (taken : List String) :
    Shaped allowed (firstFree base taken) := by
  by_cases used : base ∈ taken
  · obtain ⟨number, _, result, _⟩ := firstFree_of_taken used
    rw [result]
    exact shaped.numbered numbers number
  · rwa [firstFree_of_free used]

theorem Shaped.capitals {base : String} (shaped : Shaped isBaseChar base) :
    Shaped isVariableChar (String.ofList (base.toList.map Char.toUpper)) := by
  obtain ⟨first, start, letter⟩ := shaped.letter
  refine ⟨⟨first.toUpper, ?_, ?_⟩, ?_⟩
  · simp [Option.mem_def.mp start]
  · exact isAlpha_toUpper (shaped.allowed first (List.mem_of_head? start)) letter
  · intro c member
    rw [String.toList_ofList] at member
    obtain ⟨small, original, rfl⟩ := List.mem_map.mp member
    exact isVariableChar_toUpper (shaped.allowed small original)

end QuizPackage
