import QuizPackage.Markup.Escape
import Mathlib.Data.List.Infix

/-!
# Escaping loses nothing

A text is written letter by letter: a character of the list of entities as its entity, and every
other one as it is. Each entity starts with an ampersand, which stands for itself nowhere, and none
is the start of another. So where one letter of the written text ends is plain from what it starts
with, and different texts are written differently.
-/

namespace QuizPackage

namespace Text

theorem replaceFrom_eq_flatMap (c : Char) (entity text : List Char) :
    replaceFrom [c] entity 0 text =
      text.flatMap fun letter => if letter = c then entity else [letter] := by
  induction text with
  | nil => rfl
  | cons first rest ih =>
      by_cases same : first = c
      · simp [replaceFrom, List.isPrefixOf, same, ih]
      · simp [replaceFrom, List.isPrefixOf, same, Ne.symm same, ih]

theorem toList_replace (c : Char) (entity text : String) :
    (replace c.toString entity text).toList =
      text.toList.flatMap fun letter => if letter = c then entity.toList else [letter] := by
  have single : c.toString.toList = [c] := by simp
  rw [replace, String.toList_ofList, replaceChars, single, replaceFrom_eq_flatMap]

/-- A text coded letter by letter can be read back if the code of a letter is not empty and tells
the letter, whatever follows it. -/
theorem flatMap_injective {code : Char → List Char} (filled : ∀ letter, code letter ≠ [])
    (apart : ∀ {first second rest more},
      code first ++ rest = code second ++ more → first = second) :
    Function.Injective fun text : List Char => text.flatMap code := by
  intro first
  induction first with
  | nil =>
      intro second same
      cases second with
      | nil => rfl
      | cons letter more =>
          have coded : [] = code letter ++ more.flatMap code := same
          exact absurd (List.append_eq_nil_iff.mp coded.symm).1 (filled letter)
  | cons letter rest ih =>
      intro second same
      cases second with
      | nil =>
          have coded : code letter ++ rest.flatMap code = [] := same
          exact absurd (List.append_eq_nil_iff.mp coded).1 (filled letter)
      | cons other more =>
          have coded : code letter ++ rest.flatMap code = code other ++ more.flatMap code := same
          obtain rfl := apart coded
          rw [ih (List.append_cancel_left coded)]

end Text

namespace Markup

variable {entities : List (Char × String)} {letter : Char}

/-- What one letter becomes. -/
def written : List (Char × String) → Char → List Char
  | [], letter => [letter]
  | (c, entity) :: rest, letter =>
      (if letter = c then entity.toList else [letter]).flatMap (written rest)

theorem toList_substitute (entities : List (Char × String)) (text : String) :
    (substitute entities text).toList = text.toList.flatMap (written entities) := by
  induction entities generalizing text with
  | nil =>
      have kept (letters : List Char) : letters.flatMap (written []) = letters :=
        List.flatMap_singleton' letters
      rw [kept]
      rfl
  | cons entry rest ih =>
      have step : substitute (entry :: rest) text =
          substitute rest (Text.replace entry.1.toString entry.2 text) := rfl
      rw [step, ih, Text.toList_replace, List.flatMap_assoc]
      rfl

theorem written_of_not_listed (other : letter ∉ entities.map Prod.fst) :
    written entities letter = [letter] := by
  induction entities with
  | nil => rfl
  | cons entry rest ih =>
      rw [List.map_cons, List.mem_cons, not_or] at other
      simp [written, other.1, ih other.2]

/-- A list of entities whose texts can be read back. -/
structure Readable (entities : List (Char × String)) : Prop where
  /-- No entity is escaped again. -/
  final : ∀ entry ∈ entities, written entities entry.1 = entry.2.toList
  marked : ∀ entry ∈ entities, entry.2.toList.head? = some '&'
  /-- The mark of an entity is written as an entity itself. -/
  listed : '&' ∈ entities.map Prod.fst
  apart : ∀ first ∈ entities, ∀ second ∈ entities,
    first.2.toList <+: second.2.toList → first = second

theorem readable_textEntities : Readable textEntities := by
  constructor <;> decide

theorem readable_attributeEntities : Readable (textEntities ++ quoteEntities) := by
  constructor <;> decide

namespace Readable

variable {first second : Char} {rest more : List Char}

theorem exists_entry (readable : Readable entities) (listed : letter ∈ entities.map Prod.fst) :
    ∃ entity, (letter, entity) ∈ entities ∧ written entities letter = entity.toList := by
  obtain ⟨⟨c, entity⟩, member, rfl⟩ := List.mem_map.mp listed
  exact ⟨entity, member, readable.final _ member⟩

theorem written_head (readable : Readable entities) (listed : letter ∈ entities.map Prod.fst) :
    ∃ tail, written entities letter = '&' :: tail := by
  obtain ⟨entity, member, equal⟩ := readable.exists_entry listed
  rw [equal]
  exact ⟨_, (List.eq_cons_of_mem_head? (readable.marked _ member))⟩

theorem written_ne_nil (readable : Readable entities) (letter : Char) :
    written entities letter ≠ [] := by
  by_cases listed : letter ∈ entities.map Prod.fst
  · obtain ⟨tail, equal⟩ := readable.written_head listed
    simp [equal]
  · simp [written_of_not_listed listed]

/-- A letter written as an entity does not start like one written as it is. -/
theorem written_ne (readable : Readable entities) (listed : first ∈ entities.map Prod.fst)
    (other : second ∉ entities.map Prod.fst) :
    written entities first ++ rest ≠ written entities second ++ more := by
  intro same
  obtain ⟨tail, equal⟩ := readable.written_head listed
  rw [equal, written_of_not_listed other, List.cons_append, List.singleton_append,
    List.cons.injEq] at same
  exact other (same.1 ▸ readable.listed)

theorem written_apart (readable : Readable entities)
    (same : written entities first ++ rest = written entities second ++ more) :
    first = second := by
  by_cases inFirst : first ∈ entities.map Prod.fst <;>
    by_cases inSecond : second ∈ entities.map Prod.fst
  · obtain ⟨entity, member, equal⟩ := readable.exists_entry inFirst
    obtain ⟨other, otherMember, otherEqual⟩ := readable.exists_entry inSecond
    rw [equal, otherEqual] at same
    -- Both entities start the same text, so the shorter one starts the longer.
    rcases List.prefix_or_prefix_of_prefix (List.prefix_append entity.toList rest)
      (same ▸ List.prefix_append other.toList more) with starts | starts
    · exact congrArg Prod.fst (readable.apart _ member _ otherMember starts)
    · exact (congrArg Prod.fst (readable.apart _ otherMember _ member starts)).symm
  · exact absurd same (readable.written_ne inFirst inSecond)
  · exact absurd same.symm (readable.written_ne inSecond inFirst)
  · rw [written_of_not_listed inFirst, written_of_not_listed inSecond] at same
    exact (List.cons.inj same).1

theorem substitute_injective (readable : Readable entities) :
    Function.Injective (substitute entities) := by
  intro first second same
  have letters := congrArg String.toList same
  rw [toList_substitute, toList_substitute] at letters
  exact String.toList_inj.mp
    (Text.flatMap_injective readable.written_ne_nil readable.written_apart letters)

/-- A character of the list does not occur in what is written, unless an entity holds it. -/
theorem not_mem_substitute (readable : Readable entities)
    (listed : letter ∈ entities.map Prod.fst)
    (absent : ∀ entry ∈ entities, letter ∉ entry.2.toList) (text : String) :
    letter ∉ (substitute entities text).toList := by
  rw [toList_substitute]
  intro member
  obtain ⟨source, -, inside⟩ := List.mem_flatMap.mp member
  by_cases sourceListed : source ∈ entities.map Prod.fst
  · obtain ⟨entity, entryMember, equal⟩ := readable.exists_entry sourceListed
    exact absent _ entryMember (equal ▸ inside)
  · rw [written_of_not_listed sourceListed, List.mem_singleton] at inside
    exact sourceListed (inside ▸ listed)

end Readable

theorem escape_injective : Function.Injective escape :=
  readable_textEntities.substitute_injective

theorem escapeAttribute_eq (text : String) :
    escapeAttribute text = substitute (textEntities ++ quoteEntities) text :=
  List.foldl_append.symm

theorem escapeAttribute_injective : Function.Injective escapeAttribute := by
  intro first second same
  rw [escapeAttribute_eq, escapeAttribute_eq] at same
  exact readable_attributeEntities.substitute_injective same

/-- Escaped text ends where the next tag starts. -/
theorem less_not_mem_escape (text : String) : '<' ∉ (escape text).toList :=
  readable_textEntities.not_mem_substitute (by decide) (by decide) text

/-- The value of an attribute ends where its quotes close. -/
theorem quote_not_mem_escapeAttribute (text : String) : '"' ∉ (escapeAttribute text).toList := by
  rw [escapeAttribute_eq]
  exact readable_attributeEntities.not_mem_substitute (by decide) (by decide) text

end Markup

end QuizPackage
