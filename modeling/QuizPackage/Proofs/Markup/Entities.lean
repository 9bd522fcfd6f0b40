import QuizPackage.Proofs.Identifier.Registry
import QuizPackage.Proofs.Markup.Decoding
import QuizPackage.Proofs.Markup.WellFormed

/-!
# Escaping in one pass

Escaping replaces one character after the other in the whole text, so that each replacement sees
what those before it have written. It comes to the same as one pass over the text, which a reader
of markup undoes: no entity is escaped again, and no ampersand is left that starts none.
-/

namespace QuizPackage.Markup

/-- What a letter becomes in a single pass: its entity if it has one. -/
def entityOf (entities : List (Char × String)) (letter : Char) : List Char :=
  match entities.lookup letter with
  | some entity => entity.toList
  | none => [letter]

/-- A function writes every letter that has an entity as this entity, in one pass. -/
structure WritesEntities (entities : List (Char × String)) (write : String → String) : Prop where
  onePass : ∀ text, (write text).toList = text.toList.flatMap (entityOf entities)
  injective : Function.Injective write
  append : ∀ front back, write (front ++ back) = write front ++ write back
  /-- Every ampersand of what is written starts an entity. -/
  ampersand : ∀ text before after, (write text).toList = before ++ '&' :: after →
    ∃ entry ∈ entities, entry.2.toList <+: '&' :: after
  /-- No other character that has an entity is left. -/
  absent : ∀ entry ∈ entities, entry.1 ≠ '&' → ∀ text, entry.1 ∉ (write text).toList
  decoded : ∀ text, decode (write text) = text

variable {entities known : List (Char × String)} {letter : Char} {entry : Char × String}
  {text rest before after : List Char}

theorem Readable.written_eq (readable : Readable entities) :
    written entities = entityOf entities := by
  funext letter
  unfold entityOf
  cases found : entities.lookup letter with
  | none => exact written_of_not_listed (lookup_eq_none_iff_not_mem.mp found)
  | some entity => exact readable.final _ (mem_of_lookup_eq_some found)

theorem substitute_append (entities : List (Char × String)) (front back : String) :
    substitute entities (front ++ back) =
      substitute entities front ++ substitute entities back := by
  apply String.toList_injective
  simp only [String.toList_append, toList_substitute, List.flatMap_append]

/-- An ampersand in a text made of entities and of letters without one starts an entity, if entities
have it at their start only. -/
theorem Escaped.ampersand {text : String} (escaped : Escaped entities text)
    (listed : '&' ∈ entities.map Prod.fst) (single : ∀ entry ∈ entities, '&' ∉ entry.2.toList.tail)
    (equal : text.toList = before ++ '&' :: after) :
    ∃ entry ∈ entities, entry.2.toList <+: '&' :: after := by
  obtain ⟨segments, whole, each⟩ := escaped
  rw [whole] at equal
  clear whole
  induction segments generalizing before with
  | nil => simp at equal
  | cons segment segments ih =>
      rw [List.forall_mem_cons] at each
      rw [List.flatten_cons] at equal
      rcases List.append_eq_append_iff.mp equal with ⟨later, rfl, split⟩ | ⟨here, split, remains⟩
      · exact ih split each.2
      · cases here with
        | nil =>
            have later : segments.flatten = [] ++ '&' :: after := remains.symm
            exact ih later each.2
        | cons first here =>
            obtain ⟨rfl, rfl⟩ := List.cons.inj remains
            rcases each.1 with ⟨entry, member, rfl⟩ | ⟨c, other, rfl⟩
            · cases before with
              | nil => exact ⟨entry, member, by rw [split]; exact List.prefix_append _ _⟩
              | cons _ before => exact absurd (by simp [split]) (single entry member)
            · have held : '&' ∈ [c] := by simp [split]
              exact absurd (List.mem_singleton.mp held ▸ listed) other

theorem decodeFrom_passed (passed : List Char) :
    decodeFrom known passed.length (passed ++ rest) = decodeFrom known 0 rest := by
  induction passed with
  | nil => rfl
  | cons _ _ ih => exact ih

theorem Readable.entityAt?_eq (readable : Readable known) (listed : entry ∈ known) :
    entityAt? known (entry.2.toList ++ rest) = some entry := by
  have itself : entry.2.toList.isPrefixOf (entry.2.toList ++ rest) = true :=
    List.isPrefixOf_iff_prefix.mpr (List.prefix_append _ _)
  have isSome : (entityAt? known (entry.2.toList ++ rest)).isSome = true := by
    unfold entityAt?
    exact List.find?_isSome.mpr ⟨entry, listed, itself⟩
  obtain ⟨other, found⟩ := Option.isSome_iff_exists.mp isSome
  rw [found]
  unfold entityAt? at found
  have member : other ∈ known := List.mem_of_find?_eq_some found
  have matched := List.find?_some found
  have starts : other.2.toList <+: entry.2.toList ++ rest := List.isPrefixOf_iff_prefix.mp matched
  -- Both entities start the same text, so the shorter one starts the longer.
  rcases List.prefix_or_prefix_of_prefix starts (List.prefix_append entry.2.toList rest) with
    shorter | longer
  · rw [readable.apart _ member _ listed shorter]
  · rw [readable.apart _ listed _ member longer]

/-- An entity is read for its character, and reading goes on behind it. -/
theorem Readable.decodeFrom_entity (readable : Readable known) (listed : entry ∈ known) :
    decodeFrom known 0 (entry.2.toList ++ rest) = entry.1 :: decodeFrom known 0 rest := by
  have found : entityAt? known (entry.2.toList ++ rest) = some entry :=
    readable.entityAt?_eq listed
  obtain ⟨tail, letters⟩ : ∃ tail, entry.2.toList = '&' :: tail :=
    ⟨_, List.eq_cons_of_mem_head? (readable.marked _ listed)⟩
  have behind : entry.2.length - 1 = tail.length := by
    rw [← String.length_toList, letters, List.length_cons, Nat.add_sub_cancel]
  rw [letters, List.cons_append] at found ⊢
  rw [decodeFrom, found]
  dsimp only
  rw [behind, decodeFrom_passed]

theorem Readable.decodeFrom_written (readable : Readable known) (ofEntities : Readable entities)
    (within : ∀ entry ∈ entities, entry ∈ known) :
    decodeFrom known 0 (written entities letter ++ rest) = letter :: decodeFrom known 0 rest := by
  by_cases listed : letter ∈ entities.map Prod.fst
  · obtain ⟨entity, member, equal⟩ := ofEntities.exists_entry listed
    rw [equal]
    exact readable.decodeFrom_entity (within _ member)
  · have unmarked : letter ≠ '&' := fun same => listed (same ▸ ofEntities.listed)
    rw [written_of_not_listed listed, List.singleton_append, decodeFrom,
      entityAt?_of_unmarked readable.marked unmarked]

theorem Readable.decode_substitute (ofEntities : Readable entities)
    (within : ∀ entry ∈ entities, entry ∈ knownEntities) (text : String) :
    decode (substitute entities text) = text := by
  have readable : Readable knownEntities := readable_attributeEntities
  have letters : ∀ letters : List Char,
      decodeFrom knownEntities 0 (letters.flatMap (written entities)) = letters := by
    intro letters
    induction letters with
    | nil => rfl
    | cons letter rest ih =>
        rw [List.flatMap_cons, readable.decodeFrom_written ofEntities within, ih]
  rw [decode, toList_substitute, letters, String.ofList_toList]

theorem Readable.writesEntities (readable : Readable entities)
    (single : ∀ entry ∈ entities, '&' ∉ entry.2.toList.tail)
    (apart : ∀ entry ∈ entities, entry.1 ≠ '&' → ∀ other ∈ entities, entry.1 ∉ other.2.toList)
    (within : ∀ entry ∈ entities, entry ∈ knownEntities) :
    WritesEntities entities (substitute entities) where
  onePass text := by rw [toList_substitute, readable.written_eq]
  injective := readable.substitute_injective
  append := substitute_append entities
  ampersand text _ _ equal := (readable.escaped text).ampersand readable.listed single equal
  absent entry member other text :=
    readable.not_mem_substitute (List.mem_map_of_mem member) (apart entry member other) text
  decoded := readable.decode_substitute within

/-- Escaping writes the three entities of text, or the five of attribute values, in one pass, and
loses nothing. -/
theorem escaping_writes_entities_in_one_pass :
    WritesEntities [('&', "&amp;"), ('<', "&lt;"), ('>', "&gt;")] escape ∧
      WritesEntities
        [('&', "&amp;"), ('<', "&lt;"), ('>', "&gt;"), ('"', "&quot;"), ('\'', "&apos;")]
        escapeAttribute := by
  constructor
  · exact readable_textEntities.writesEntities (by decide) (by decide) (by decide)
  · rw [show escapeAttribute = substitute (textEntities ++ quoteEntities) from
      funext escapeAttribute_eq]
    exact readable_attributeEntities.writesEntities (by decide) (by decide) (by decide)

example : decode (escape "&amp;lt; < \"") = "&amp;lt; < \"" := by decide +kernel

end QuizPackage.Markup
