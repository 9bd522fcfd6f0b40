import QuizPackage.Proofs.Markup.Balance
import QuizPackage.Proofs.Markup.Decoding

/-!
# Well-formed markup

What a tree is written as follows a grammar: elements with their tags and what is inside, escaped
text, and the fragments of the tree as they are, each of them once and in their order. Values of
attributes stand in double quotes, and characters that mean something in markup stand in no value
and no text, other than in entities. Where the fragments are balanced, so is the whole.
-/

namespace QuizPackage

namespace Markup

variable {format : Format} {entities : List (Char × String)} {fragments : List String}
  {text : String}

/-- A text made of entities and of characters that have none. -/
def Escaped (entities : List (Char × String)) (text : String) : Prop :=
  ∃ segments : List (List Char), text.toList = segments.flatten ∧
    ∀ segment ∈ segments, (∃ entry ∈ entities, segment = entry.2.toList) ∨
      ∃ c, c ∉ entities.map Prod.fst ∧ segment = [c]

theorem Readable.escaped (readable : Readable entities) (text : String) :
    Escaped entities (substitute entities text) := by
  refine ⟨text.toList.map (written entities), ?_, List.forall_mem_map.mpr fun c _ => ?_⟩
  · rw [toList_substitute, List.flatMap_def]
  · by_cases listed : c ∈ entities.map Prod.fst
    · obtain ⟨entity, member, equal⟩ := readable.exists_entry listed
      exact .inl ⟨(c, entity), member, equal⟩
    · exact .inr ⟨c, listed, written_of_not_listed listed⟩

theorem escaped_of_plain
    (plain : text.toList.all (fun c => !(entities.map Prod.fst).contains c) = true) :
    Escaped entities text := by
  refine ⟨text.toList.map ([·]), ?_, List.forall_mem_map.mpr fun c member => ?_⟩
  · rw [← List.flatMap_def, List.flatMap_singleton']
  · have other := List.all_eq_true.mp plain c member
    rw [Bool.not_eq_true', List.contains_eq_mem, decide_eq_false_iff_not] at other
    exact .inr ⟨c, other, rfl⟩

/-- A character with an entity stands in an escaped text only where an entity holds it. -/
theorem Escaped.not_mem (escaped : Escaped entities text) {c : Char}
    (listed : c ∈ entities.map Prod.fst) (absent : ∀ entry ∈ entities, c ∉ entry.2.toList) :
    c ∉ text.toList := by
  obtain ⟨segments, equal, each⟩ := escaped
  rw [equal, List.mem_flatten]
  rintro ⟨segment, member, inside⟩
  rcases each segment member with ⟨entry, known, rfl⟩ | ⟨letter, other, rfl⟩
  · exact absent entry known inside
  · rw [List.mem_singleton.mp inside] at listed
    exact other listed

/-- The characters that stand in no text, with their entities. -/
def contentEntities : List (Char × String) := [
  ('&', "&amp;"),
  ('<', "&lt;"),
  ('>', "&gt;")]

/-- A start tag with proper names, in which the values of all attributes are escaped. -/
structure Proper (name : String) (attributes : List (String × String)) : Prop where
  named : isName name.toList = true
  attributesNamed : ∀ single ∈ attributes, isName single.1.toList = true
  valuesEscaped : ∀ single ∈ attributes, Escaped knownEntities single.2

/-- What a tag holds: escaped text, elements, and some fragments in their order. -/
inductive Content : List String → String → Prop where
  | text {text : String} (escaped : Escaped contentEntities text) : Content [] text
  | fragment (markup : String) : Content [markup] markup
  | append {fragments others : List String} {front back : String}
      (first : Content fragments front) (second : Content others back) :
      Content (fragments ++ others) (front ++ back)
  | empty {name : String} {attributes : List (String × String)}
      (proper : Proper name attributes) : Content [] ("<" ++ tagText name attributes ++ "/>")
  | element {fragments : List String} {name : String} {attributes : List (String × String)}
      {inner : String} (proper : Proper name attributes) (inside : Content fragments inner) :
      Content fragments ("<" ++ tagText name attributes ++ ">" ++ inner ++ "</" ++ name ++ ">")

theorem Content.after_text {front back : String} (escaped : Escaped contentEntities front)
    (content : Content fragments back) : Content fragments (front ++ back) :=
  Content.append (.text escaped) content

theorem Content.before_text {front back : String} (content : Content fragments front)
    (escaped : Escaped contentEntities back) : Content fragments (front ++ back) :=
  List.append_nil fragments ▸ content.append (.text escaped)

/-- A document: the declaration and one element, closed by its own end tag. -/
def WellFormed (fragments : List String) (page : String) : Prop :=
  ∃ name attributes inner, Proper name attributes ∧ Content fragments inner ∧ Balanced inner ∧
    page = declaration ++
      ("<" ++ tagText name attributes ++ ">" ++ inner ++ "</" ++ name ++ ">" ++ "\n")

theorem Proper.orderly {name : String} {attributes : List (String × String)}
    (proper : Proper name attributes) : Orderly name attributes where
  named := proper.named
  attributesNamed := proper.attributesNamed
  valuesPlain := fun single member =>
    (proper.valuesEscaped single member).not_mem (by decide) (by decide)

/-- Content that follows the grammar is balanced if all the fragments in it are. -/
theorem Content.balanced (content : Content fragments text)
    (given : ∀ markup ∈ fragments, Balanced markup) : Balanced text := by
  rw [balanced_iff_stands]
  induction content with
  | text escaped => exact .of_plain (escaped.not_mem (by decide) (by decide))
  | fragment markup => exact (balanced_iff_stands _).mp (given markup List.mem_cons_self)
  | append first second firstStands secondStands =>
      obtain ⟨ofFirst, ofSecond⟩ := List.forall_mem_append.mp given
      rw [String.toList_append]
      exact (firstStands ofFirst).append (secondStands ofSecond)
  | empty proper => simpa using proper.orderly.stands_single
  | element proper inside stands => simpa using proper.orderly.stands_element (stands given)

/-- Fragments that follow the grammar without fragments need not be told from what is around
them. -/
theorem Content.of_fragments (content : Content fragments text)
    (given : ∀ markup ∈ fragments, Content [] markup) : Content [] text := by
  induction content with
  | text escaped => exact .text escaped
  | fragment markup => exact given markup List.mem_cons_self
  | append first second front back =>
      obtain ⟨ofFirst, ofSecond⟩ := List.forall_mem_append.mp given
      exact .append (front ofFirst) (back ofSecond)
  | empty proper => exact .empty proper
  | element proper inside inner => exact .element proper (inner given)

/-- Content without fragments is balanced by itself. -/
theorem Content.balanced_of_bare (content : Content [] text) : Balanced text :=
  content.balanced fun _ member => absurd member List.not_mem_nil

theorem WellFormed.of_fragments {page : String} (wellFormed : WellFormed fragments page)
    (given : ∀ markup ∈ fragments, Content [] markup) : WellFormed [] page := by
  obtain ⟨name, attributes, inner, proper, content, balanced, equal⟩ := wellFormed
  exact ⟨name, attributes, inner, proper, content.of_fragments given, balanced, equal⟩

mutual

/-- The fragments that a tree holds. -/
def Inline.fragments : Inline → List String
  | .text _ => []
  | .fragment markup => [markup]
  | .element _ _ content => fragmentsOfInlines content

def fragmentsOfInlines : List Inline → List String
  | [] => []
  | first :: rest => first.fragments ++ fragmentsOfInlines rest

end

mutual

def Block.fragments : Block → List String
  | .line content => content.fragments
  | .element _ _ children => fragmentsOfBlocks children

def fragmentsOfBlocks : List Block → List String
  | [] => []
  | first :: rest => first.fragments ++ fragmentsOfBlocks rest

end

/-- The attributes of an element as they are written. -/
def writtenAttributes (format : Format) (attributes : List Attribute) : List (String × String) :=
  attributes.map fun single => (single.name.spelling.in format, escapeAttribute single.value)

theorem renderTag_eq_tagText (name : ElementName) (attributes : List Attribute) :
    renderTag format name attributes =
      tagText (name.spelling.in format) (writtenAttributes format attributes) := by
  rw [renderTag, tagText, writtenAttributes, List.map_map]
  rfl

theorem proper_writtenAttributes (format : Format) (name : ElementName)
    (attributes : List Attribute) :
    Proper (name.spelling.in format) (writtenAttributes format attributes) where
  named := name.isName_spelling format
  attributesNamed := List.forall_mem_map.mpr fun single _ => single.name.isName_spelling format
  valuesEscaped := List.forall_mem_map.mpr fun single _ => by
    rw [escapeAttribute_eq]
    exact readable_attributeEntities.escaped single.value

theorem escaped_lineFeed : Escaped contentEntities "\n" :=
  escaped_of_plain rfl

theorem escaped_indent (depth : Nat) : Escaped contentEntities (indent depth) :=
  escaped_of_plain (by simp [indent, contentEntities])

theorem content_empty : Content [] "" :=
  .text (escaped_of_plain rfl)

mutual

theorem Inline.render_content (content : Inline) :
    Content content.fragments (content.render format) := by
  cases content with
  | text value => exact .text (readable_textEntities.escaped value)
  | fragment markup => exact .fragment markup
  | element name attributes children =>
      have proper := proper_writtenAttributes format name attributes
      cases children with
      | nil =>
          rw [Inline.render, renderTag_eq_tagText]
          exact .empty proper
      | cons first rest =>
          have inner := renderInlines_content (first :: rest)
          rw [renderInlines] at inner
          have whole := Content.element proper inner
          simpa only [Inline.render, Inline.fragments, renderStart, renderEnd,
            renderTag_eq_tagText, String.append_assoc] using whole

theorem renderInlines_content (content : List Inline) :
    Content (fragmentsOfInlines content) (renderInlines format content) := by
  cases content with
  | nil => exact content_empty
  | cons first rest => exact first.render_content.append (renderInlines_content rest)

end

mutual

theorem Block.render_content (block : Block) (depth : Nat) :
    Content block.fragments (block.render format depth) := by
  cases block with
  | line content =>
      exact (content.render_content.after_text (escaped_indent depth)).before_text escaped_lineFeed
  | element name attributes children =>
      have proper := proper_writtenAttributes format name attributes
      have inner : Content (fragmentsOfBlocks children)
          ("\n" ++ renderBlocks format (depth + 1) children ++ indent depth) :=
        ((renderBlocks_content children (depth + 1)).after_text escaped_lineFeed).before_text
          (escaped_indent depth)
      have whole := ((Content.element proper inner).after_text (escaped_indent depth)).before_text
        escaped_lineFeed
      simpa only [Block.render, Block.fragments, renderStart, renderEnd, renderTag_eq_tagText,
        String.append_assoc] using whole

theorem renderBlocks_content (blocks : List Block) (depth : Nat) :
    Content (fragmentsOfBlocks blocks) (renderBlocks format depth blocks) := by
  cases blocks with
  | nil => exact content_empty
  | cons first rest => exact (first.render_content depth).append (renderBlocks_content rest depth)

end

/-- A tree with an element at its root is written as a well-formed document if its fragments are
balanced. -/
theorem renderDocument_wellFormed (format : Format) (name : ElementName)
    (attributes : List Attribute) (children : List Block)
    (balanced : ∀ markup ∈ fragmentsOfBlocks children, Balanced markup) :
    WellFormed (fragmentsOfBlocks children)
      (renderDocument format (.element name attributes children)) := by
  have inner : Content (fragmentsOfBlocks children) ("\n" ++ renderBlocks format 1 children) :=
    (renderBlocks_content children 1).after_text escaped_lineFeed
  refine ⟨_, _, _, proper_writtenAttributes format name attributes, inner,
    inner.balanced balanced, ?_⟩
  have unindented : indent 0 = "" := rfl
  simp only [renderDocument, Block.render, renderStart, renderEnd, renderTag_eq_tagText,
    unindented, String.append_assoc, String.empty_append]

/-- Legible trees hold no fragments. -/
theorem Inline.Legible.fragments_eq_nil {content : Inline} (legible : content.Legible) :
    content.fragments = [] := by
  induction legible with
  | empty | text => rfl
  | nested bare attributes inner ih => simp [Inline.fragments, fragmentsOfInlines, ih]

theorem fragmentsOfBlocks_eq_flatMap (blocks : List Block) :
    fragmentsOfBlocks blocks = blocks.flatMap Block.fragments := by
  induction blocks with
  | nil => rfl
  | cons first rest ih => rw [fragmentsOfBlocks, ih, List.flatMap_cons]

theorem Block.Legible.fragments_eq_nil {block : Block} (legible : block.Legible) :
    block.fragments = [] := by
  induction legible with
  | line inner => exact inner.fragments_eq_nil
  | element bare attributes inner ih =>
      rw [Block.fragments, fragmentsOfBlocks_eq_flatMap]
      exact List.flatMap_eq_nil_iff.mpr ih

theorem fragmentsOfBlocks_of_legible {blocks : List Block}
    (legible : ∀ block ∈ blocks, block.Legible) : fragmentsOfBlocks blocks = [] := by
  rw [fragmentsOfBlocks_eq_flatMap, List.flatMap_eq_nil_iff]
  exact fun block member => (legible block member).fragments_eq_nil

theorem fragmentsOfBlocks_append (front back : List Block) :
    fragmentsOfBlocks (front ++ back) = fragmentsOfBlocks front ++ fragmentsOfBlocks back := by
  simp only [fragmentsOfBlocks_eq_flatMap, List.flatMap_append]

/-- Blocks that hold one fragment each hold these fragments together. -/
theorem fragmentsOfBlocks_map {α : Type} {made : α → Block} {markup : α → String}
    (single : ∀ value, (made value).fragments = [markup value]) (values : List α) :
    fragmentsOfBlocks (values.map made) = values.map markup := by
  rw [fragmentsOfBlocks_eq_flatMap, List.flatMap_map]
  simp only [single]
  exact List.map_eq_flatMap.symm

theorem Block.fragments_fragment (name : ElementName) (attributes : List Attribute)
    (markup : String) : (Block.fragment name attributes markup).fragments = [markup] := by
  simp [Block.fragment, Block.fragments, Inline.fragments, fragmentsOfInlines]

/-- A legible document is well-formed by itself. -/
theorem renderDocument_wellFormed_of_legible {name : ElementName} {attributes : List Attribute}
    {children : List Block} (legible : (Block.element name attributes children).Legible) :
    WellFormed [] (renderDocument format (.element name attributes children)) := by
  have bare : fragmentsOfBlocks children = [] := legible.fragments_eq_nil
  have wellFormed := renderDocument_wellFormed format name attributes children
  rw [bare] at wellFormed
  exact wellFormed fun markup member => absurd member List.not_mem_nil

end Markup

end QuizPackage
