import QuizPackage.Markup.Escape

namespace QuizPackage.Markup

variable {entities : List (Char × String)} {front text : List Char}

/-- The entities that every reader of markup knows. -/
def knownEntities : List (Char × String) := [
  ('&', "&amp;"),
  ('<', "&lt;"),
  ('>', "&gt;"),
  ('"', "&quot;"),
  ('\'', "&apos;")]

def entityAt? (entities : List (Char × String)) (text : List Char) : Option (Char × String) :=
  entities.find? fun entry => entry.2.toList.isPrefixOf text

/-- Reads entities for their characters. `skip` counts the characters that still belong to an entity
already read. -/
def decodeFrom (entities : List (Char × String)) : (skip : Nat) → List Char → List Char
  | _, [] => []
  | skip + 1, _ :: rest => decodeFrom entities skip rest
  | 0, c :: rest =>
      match entityAt? entities (c :: rest) with
      | some entry => entry.1 :: decodeFrom entities (entry.2.length - 1) rest
      | none => c :: decodeFrom entities 0 rest

/-- A text with its entities read. -/
def decode (text : String) : String :=
  String.ofList (decodeFrom knownEntities 0 text.toList)

theorem entityAt?_of_unmarked (marked : ∀ entry ∈ entities, entry.2.toList.head? = some '&')
    {c : Char} (unmarked : c ≠ '&') : entityAt? entities (c :: text) = none := by
  refine List.find?_eq_none.mpr fun entry member starts => ?_
  obtain ⟨rest, equal⟩ := List.isPrefixOf_iff_prefix.mp starts
  have first := marked entry member
  cases letters : entry.2.toList with
  | nil => simp [letters] at first
  | cons letter more =>
      rw [letters] at first equal
      obtain ⟨rfl, -⟩ := List.cons.inj equal
      exact unmarked (Option.some.inj first)

theorem decodeFrom_append (marked : ∀ entry ∈ entities, entry.2.toList.head? = some '&')
    (unmarked : '&' ∉ front) :
    decodeFrom entities 0 (front ++ text) = front ++ decodeFrom entities 0 text := by
  induction front with
  | nil => rfl
  | cons c front ih =>
      rw [List.mem_cons, not_or] at unmarked
      rw [List.cons_append, decodeFrom, entityAt?_of_unmarked marked (Ne.symm unmarked.1)]
      exact congrArg (c :: ·) (ih unmarked.2)

/-- What stands in front without an ampersand is read as it is. -/
theorem decode_append {front text : String} (unmarked : '&' ∉ front.toList) :
    decode (front ++ text) = front ++ decode text := by
  rw [decode, String.toList_append, decodeFrom_append (by decide) unmarked, String.ofList_append,
    String.ofList_toList, decode]

example : decode "<c> salt &amp;amp; &lt;pepper&gt; &c" = "<c> salt &amp; <pepper> &c" := by
  decide +kernel

end QuizPackage.Markup
