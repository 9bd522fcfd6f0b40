import QuizPackage.Proofs.Identifier.Registry

namespace QuizPackage

/-- Whether an identifier starts with a capital, as the names of variables do. -/
def Identifier.isCapital (identifier : Identifier) : Bool :=
  identifier.text.toList.head?.any Char.isUpper

/-- An identifier without a suffix as a registry with the suffix issues it. -/
def Identifier.suffixed (suffix : String) (identifier : Identifier) : Identifier :=
  if suffix == "" || identifier.isCapital then identifier else ⟨identifier.text ++ "_" ++ suffix⟩

/-- An identifier without the suffix of the registry that issued it. -/
def Identifier.unsuffixed (suffix : String) (identifier : Identifier) : Identifier :=
  if suffix == "" || identifier.isCapital then identifier
  else ⟨String.ofList (identifier.text.toList.take (identifier.text.length - (suffix.length + 1)))⟩

/-- An identifier of a registry with one suffix as a registry with another issues it. -/
def Identifier.resuffixed (first second : String) (identifier : Identifier) : Identifier :=
  (identifier.unsuffixed first).suffixed second

variable {identifier : Identifier} {registry : Registry} {base suffix first second : String}

theorem Identifier.isCapital_append (shown : identifier.isCapital = false) (suffix : String) :
    (⟨identifier.text ++ "_" ++ suffix⟩ : Identifier).isCapital = false := by
  unfold Identifier.isCapital at *
  rw [String.toList_append, String.toList_append]
  cases letters : identifier.text.toList with
  | nil => rfl
  | cons first rest =>
      rw [letters] at shown
      exact shown

theorem Identifier.isCapital_suffixed (suffix : String) (identifier : Identifier) :
    (identifier.suffixed suffix).isCapital = identifier.isCapital := by
  unfold Identifier.suffixed
  cases shown : identifier.isCapital with
  | true => simp [shown]
  | false =>
      split
      · exact shown
      · exact Identifier.isCapital_append shown suffix

theorem Identifier.unsuffixed_suffixed (suffix : String) :
    Function.LeftInverse (Identifier.unsuffixed suffix) (Identifier.suffixed suffix) := by
  intro identifier
  unfold Identifier.unsuffixed
  rw [Identifier.isCapital_suffixed]
  unfold Identifier.suffixed
  split
  · rfl
  · have ended : identifier.text.length + 1 + suffix.length - (suffix.length + 1) =
        identifier.text.toList.length := by
      rw [String.length_toList]
      omega
    apply Identifier.text_injective
    apply String.toList_injective
    simp only [String.toList_ofList, String.toList_append, String.length_append, List.append_assoc]
    rw [show "_".length = 1 from rfl, ended, List.take_left]

theorem Identifier.suffixed_injective (suffix : String) :
    Function.Injective (Identifier.suffixed suffix) :=
  (Identifier.unsuffixed_suffixed suffix).injective

theorem Identifier.resuffixed_suffixed (first second : String) (identifier : Identifier) :
    (identifier.suffixed first).resuffixed first second = identifier.suffixed second := by
  rw [Identifier.resuffixed, Identifier.unsuffixed_suffixed]

theorem isUpper_eq_false_of_isBaseChar {c : Char} (allowed : isBaseChar c = true) :
    c.isUpper = false := by
  have checked := of_ascii (fun c => !isBaseChar c || !c.isUpper) (by decide)
    (isBaseChar_ascii allowed)
  simpa [allowed] using checked

theorem isUpper_of_isVariableChar {c : Char} (allowed : isVariableChar c = true)
    (letter : c.isAlpha = true) : c.isUpper = true := by
  have kept : isKept c = true := by simp [isKept, Char.isAlphanum, letter]
  have checked := of_ascii (fun c => !(isVariableChar c && c.isAlpha) || c.isUpper) (by decide)
    (isKept_ascii kept)
  simpa [allowed, letter] using checked

theorem Shaped.isCapital_eq_false (shaped : Shaped isBaseChar base) :
    (⟨base⟩ : Identifier).isCapital = false := by
  obtain ⟨first, start, _⟩ := shaped.letter
  rw [Identifier.isCapital, Option.mem_def.mp start]
  exact isUpper_eq_false_of_isBaseChar (shaped.allowed first (List.mem_of_head? start))

theorem Shaped.isCapital_eq_true (shaped : Shaped isVariableChar base) :
    (⟨base⟩ : Identifier).isCapital = true := by
  obtain ⟨first, start, letter⟩ := shaped.letter
  rw [Identifier.isCapital, Option.mem_def.mp start]
  exact isUpper_of_isVariableChar (shaped.allowed first (List.mem_of_head? start)) letter

theorem Identifier.suffixed_of_isCapital (capital : identifier.isCapital = true) :
    identifier.suffixed suffix = identifier := by
  simp [Identifier.suffixed, capital]

theorem Registry.identifier_eq_suffixed (registry : Registry) (shaped : Shaped isBaseChar base) :
    registry.identifier base = Identifier.suffixed registry.suffix ⟨base⟩ := by
  unfold Registry.identifier Identifier.suffixed
  rw [shaped.isCapital_eq_false, Bool.or_false]

end QuizPackage
