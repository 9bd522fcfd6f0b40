import QuizPackage.Proofs.Identifier.History
import QuizPackage.Proofs.Identifier.Suffix
import QuizPackage.Proofs.Markup.Rendering
import QuizPackage.Text.Case

namespace QuizPackage

/-- A text that starts with a letter of one case and goes on in letters of this case, digits and
joiners. -/
def IsSpelled (letter : Char → Bool) (text : String) : Prop :=
  ∃ first rest, text.toList = first :: rest ∧ letter first = true ∧
    ∀ c ∈ rest, letter c || c.isDigit || isJoiner c

/-- What a call returns as an identifier of the package. -/
def Exchange.identifier? : Exchange → Option Identifier
  | ⟨.issue _ _, answer⟩ => answer
  | ⟨.issueFor _ _ _, answer⟩ => answer
  | ⟨.issueVariable _ _, _⟩ => none

/-- The identifiers that the calls of a history return, in their order. -/
def identifiersIn (history : List Exchange) : List Identifier :=
  history.filterMap Exchange.identifier?

/-- The variables that the calls of a history return, in their order. -/
def variablesIn (history : List Exchange) : List Identifier :=
  (history.filterMap Exchange.variable?).map Prod.snd

variable {registry : Registry} {identifier : Identifier} {text : String}
  {letter : Char → Bool}

theorem Shaped.isSpelled {allowed : Char → Bool} (shaped : Shaped allowed text)
    (start : ∀ c, allowed c = true → c.isAlpha = true → letter c = true)
    (inside : ∀ c, allowed c = true → letter c || c.isDigit || isJoiner c) :
    IsSpelled letter text := by
  obtain ⟨first, head, alpha⟩ := shaped.letter
  obtain ⟨rest, letters⟩ := List.head?_eq_some_iff.mp head
  have listed := shaped.allowed
  rw [letters, List.forall_mem_cons] at listed
  exact ⟨first, rest, letters, start first listed.1 alpha,
    fun c member => inside c (listed.2 c member)⟩

theorem Shaped.isSpelled_lower (shaped : Shaped isBaseChar text) :
    IsSpelled Char.isLower text := by
  refine shaped.isSpelled (fun c allowed alpha => ?_) fun _ allowed => allowed
  rcases Bool.or_eq_true_iff.mp alpha with capital | small
  · rw [isUpper_eq_false_of_isBaseChar allowed] at capital
    cases capital
  · exact small

theorem Shaped.isSpelled_upper (shaped : Shaped isVariableChar text) :
    IsSpelled Char.isUpper text :=
  shaped.isSpelled (fun _ allowed alpha => isUpper_of_isVariableChar allowed alpha)
    fun _ allowed => allowed

theorem IsSpelled.mem {c : Char} (spelled : IsSpelled letter text) (member : c ∈ text.toList) :
    letter c || c.isDigit || isJoiner c := by
  obtain ⟨first, rest, letters, start, inside⟩ := spelled
  rw [letters] at member
  rcases List.mem_cons.mp member with rfl | member
  · simp [start]
  · exact inside c member

theorem IsSpelled.isPlain_lower (spelled : IsSpelled Char.isLower text) : IsPlain text :=
  fun _ member => Bool.or_eq_true_iff.mpr (.inl (spelled.mem member))

theorem IsSpelled.isPlain_upper (spelled : IsSpelled Char.isUpper text) : IsPlain text :=
  fun _ member => Bool.or_eq_true_iff.mpr (.inr (spelled.mem member))

/-- No text is spelled both in small letters and in capitals. -/
theorem IsSpelled.lower_ne_upper {other : String} (spelled : IsSpelled Char.isLower text)
    (otherSpelled : IsSpelled Char.isUpper other) : text ≠ other := by
  rintro rfl
  obtain ⟨first, rest, letters, small, -⟩ := spelled
  obtain ⟨_, _, same, capital, -⟩ := otherSpelled
  obtain ⟨rfl, -⟩ := List.cons.inj (letters.symm.trans same)
  have allowed : isBaseChar first = true := by simp [isBaseChar, small]
  rw [isUpper_eq_false_of_isBaseChar allowed] at capital
  cases capital

theorem lowerAfter_of_isBaseChar (before : List Char) {letters : List Char}
    (allowed : ∀ c ∈ letters, isBaseChar c = true) : Text.lowerAfter before letters = letters := by
  induction letters generalizing before with
  | nil => rfl
  | cons c rest ih =>
      rw [List.forall_mem_cons] at allowed
      have checked := of_ascii
        (fun c => !isBaseChar c || (c != 'Σ' && c != 'İ' && Text.lowerChar c == c)) (by decide)
        (isBaseChar_ascii allowed.1)
      simp only [allowed.1, Bool.not_true, Bool.false_or, Bool.and_eq_true, bne_iff_ne,
        beq_iff_eq] at checked
      obtain ⟨⟨sigma, dotted⟩, small⟩ := checked
      simp [Text.lowerAfter, sigma, dotted, small, ih _ allowed.2]

theorem IsSpelled.lower_eq (spelled : IsSpelled Char.isLower text) : Text.lower text = text := by
  rw [Text.lower, lowerAfter_of_isBaseChar [] fun c member => spelled.mem member,
    String.ofList_toList]

theorem Registry.Sound.contains_spelled (sound : registry.Sound)
    (issued : registry.contains identifier = true) : IsSpelled Char.isLower identifier.text := by
  obtain ⟨base, taken, rfl⟩ := sound.exists_base issued
  have shaped := sound.basesShaped base taken
  unfold Registry.identifier
  split
  · exact shaped.isSpelled_lower
  · have line : ∀ c ∈ "_".toList, isBaseChar c = true := List.all_eq_true.mp rfl
    exact ((shaped.append line).append sound.suffixAllowed).isSpelled_lower

/-- A call returns what the registry has issued by then. -/
theorem Registry.Sound.answer_contains (sound : registry.Sound) {request : Request}
    (answered : Exchange.identifier? ⟨request, (registry.answer request).1⟩ = some identifier) :
    (registry.answer request).2.contains identifier = true := by
  cases request with
  | issueVariable owner name => cases answered
  | issue kind hint =>
      cases answered
      exact Registry.contains_iff.mpr List.mem_cons_self
  | issueFor entity kind hint =>
      simp only [Registry.answer] at answered ⊢
      rcases issueFor_cases entity kind hint registry with
        ⟨known, bound, result⟩ | ⟨_, _, _, _, result⟩ | ⟨_, _, result⟩
      · rw [result] at answered ⊢
        cases answered
        exact sound.lookup_issued bound
      · rw [result] at answered
        cases answered
      · rw [result] at answered ⊢
        cases answered
        exact Registry.contains_iff.mpr List.mem_cons_self

theorem Registry.answer_variable {request : Request} {owner name : Identifier}
    (answered : Exchange.variable? ⟨request, (registry.answer request).1⟩ = some (owner, name)) :
    IsSpelled Char.isUpper name.text := by
  cases request with
  | issueVariable owner hint =>
      cases answered
      exact (registry.issueVariable_shaped owner hint).isSpelled_upper
  | issue kind hint => cases answered
  | issueFor entity kind hint => cases answered

/-- Whatever is called for, in whatever order, every answer is spelled as its kind is. -/
theorem Registry.Sound.serve_spelled (sound : registry.Sound) (requests : List Request) :
    ∀ exchange ∈ (registry.serve requests).1,
      (∀ identifier ∈ exchange.identifier?, IsSpelled Char.isLower identifier.text) ∧
      ∀ issued ∈ exchange.variable?, IsSpelled Char.isUpper issued.2.text := by
  induction requests generalizing registry with
  | nil => simp [Registry.serve]
  | cons request rest ih =>
      refine List.forall_mem_cons.mpr ⟨⟨fun identifier answered => ?_, fun issued answered => ?_⟩,
        ih (sound.answer request)⟩
      · exact (sound.answer request).contains_spelled (sound.answer_contains answered)
      · exact Registry.answer_variable answered

/-- Identifiers are spelled in small letters and variables in capitals, whatever hints, names and
suffix they are made of. So identifiers are no variables, those that differ also differ apart from
the case of their letters, and both stand in markup as they are. -/
theorem identifiers_are_small_and_variables_capital (suffix : String) (strict : Bool)
    (requests : List Request) :
    let history := ((Registry.empty suffix strict).serve requests).1
    (∀ identifier ∈ identifiersIn history, IsSpelled Char.isLower identifier.text) ∧
      (∀ name ∈ variablesIn history, IsSpelled Char.isUpper name.text) ∧
      (∀ identifier ∈ identifiersIn history, ∀ name ∈ variablesIn history, identifier ≠ name) ∧
      (∀ first ∈ identifiersIn history, ∀ second ∈ identifiersIn history,
        Text.lower first.text = Text.lower second.text → first = second) ∧
      ∀ name ∈ identifiersIn history ++ variablesIn history,
        Markup.escapeAttribute name.text = name.text := by
  intro history
  have spelled := (Registry.empty_sound suffix strict).serve_spelled requests
  have small : ∀ identifier ∈ identifiersIn history, IsSpelled Char.isLower identifier.text := by
    intro identifier listed
    obtain ⟨exchange, within, answered⟩ := List.mem_filterMap.mp listed
    exact (spelled exchange within).1 identifier answered
  have capital : ∀ name ∈ variablesIn history, IsSpelled Char.isUpper name.text := by
    intro name listed
    obtain ⟨issued, issuedListed, rfl⟩ := List.mem_map.mp listed
    obtain ⟨exchange, within, answered⟩ := List.mem_filterMap.mp issuedListed
    exact (spelled exchange within).2 issued answered
  refine ⟨small, capital, fun identifier listed name owned equal => ?_,
    fun first one second two equal => ?_, fun name listed => ?_⟩
  · exact (small identifier listed).lower_ne_upper (capital name owned)
      (congrArg Identifier.text equal)
  · rw [(small first one).lower_eq, (small second two).lower_eq] at equal
    exact Identifier.text_injective equal
  · rcases List.mem_append.mp listed with issued | owned
    · exact Markup.escapeAttribute_of_plain (small name issued).isPlain_lower
    · exact Markup.escapeAttribute_of_plain (capital name owned).isPlain_upper

end QuizPackage
