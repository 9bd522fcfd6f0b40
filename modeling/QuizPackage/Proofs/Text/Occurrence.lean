import QuizPackage.Text.Occurrence
import Mathlib.Data.List.Infix

namespace QuizPackage.Text

variable {text pattern front back : String}

theorem occurs_iff_inside {pattern text : List Char} :
    occurs pattern text = true ↔ pattern <:+: text := by
  induction text with
  | nil => simp [occurs]
  | cons c rest ih => simp [occurs, ih, List.infix_cons_iff]

theorem contains_iff_inside : contains text pattern = true ↔ pattern.toList <:+: text.toList :=
  occurs_iff_inside

theorem contains_iff_append :
    contains text pattern = true ↔ ∃ front back, text = front ++ pattern ++ back := by
  rw [contains_iff_inside]
  constructor
  · intro ⟨front, back, equal⟩
    refine ⟨String.ofList front, String.ofList back, String.toList_inj.mp ?_⟩
    simp [← equal]
  · rintro ⟨front, back, rfl⟩
    exact ⟨front.toList, back.toList, by simp⟩

theorem contains_self (text : String) : contains text text = true :=
  contains_iff_inside.mpr List.infix_rfl

theorem contains_trans {inner : String} (outer : contains text pattern = true)
    (held : contains pattern inner = true) : contains text inner = true := by
  rw [contains_iff_inside] at *
  exact held.trans outer

theorem contains_append_left (held : contains front pattern = true) :
    contains (front ++ back) pattern = true := by
  rw [contains_iff_inside, String.toList_append] at *
  exact List.infix_append_of_infix_left held

theorem contains_append_right (held : contains back pattern = true) :
    contains (front ++ back) pattern = true := by
  rw [contains_iff_inside, String.toList_append] at *
  exact List.infix_append_of_infix_right held

theorem contains_join {parts : List String} {part : String} (member : part ∈ parts)
    (held : contains part pattern = true) : contains (String.join parts) pattern = true := by
  induction parts with
  | nil => cases member
  | cons first rest ih =>
      rw [String.join_cons]
      rcases List.mem_cons.mp member with rfl | member
      · exact contains_append_left held
      · exact contains_append_right (ih member)

theorem replaceFrom_of_not_mem {c : Char} {replacement text : List Char} (absent : c ∉ text) :
    replaceFrom [c] replacement 0 text = text := by
  induction text with
  | nil => rfl
  | cons first rest ih =>
      rw [List.mem_cons, not_or] at absent
      simp [replaceFrom, List.isPrefixOf, absent.1, ih absent.2]

/-- Replacing a character that a text does not hold leaves the text as it is. -/
theorem replace_of_not_mem {c : Char} {replacement : String} (absent : c ∉ text.toList) :
    replace c.toString replacement text = text := by
  have single : c.toString.toList = [c] := by simp
  rw [replace, replaceChars, single, replaceFrom_of_not_mem absent, String.ofList_toList]

end QuizPackage.Text
