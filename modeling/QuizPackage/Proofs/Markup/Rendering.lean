import QuizPackage.Markup.Tree
import QuizPackage.Proofs.Identifier.Registry
import QuizPackage.Proofs.Text.Occurrence

namespace QuizPackage

def isIdentifierChar (c : Char) : Bool :=
  isBaseChar c || isVariableChar c

/-- A text of identifier characters. -/
def IsPlain (text : String) : Prop :=
  ∀ c ∈ text.toList, isIdentifierChar c = true

variable {registry : Registry} {identifier owner name : Identifier}

theorem IsPlain.append {front back : String} (first : IsPlain front) (second : IsPlain back) :
    IsPlain (front ++ back) := by
  intro c member
  rw [String.toList_append] at member
  rcases List.mem_append.mp member with member | member
  · exact first c member
  · exact second c member

/-- What is issued holds identifier characters only. -/
theorem Registry.Sound.contains_plain (sound : registry.Sound)
    (issued : registry.contains identifier = true) : IsPlain identifier.text := by
  obtain ⟨base, taken, rfl⟩ := sound.exists_base issued
  have start : IsPlain base := fun c member => by
    simp [isIdentifierChar, (sound.basesShaped base taken).allowed c member]
  have suffix : IsPlain registry.suffix := fun c member => by
    simp [isIdentifierChar, sound.suffixAllowed c member]
  have line : IsPlain "_" := List.all_eq_true.mp rfl
  unfold Registry.identifier
  split
  · exact start
  · exact (start.append line).append suffix

theorem Registry.Sound.isVariableOf_plain (sound : registry.Sound)
    (owned : registry.isVariableOf owner name = true) : IsPlain name.text := by
  intro c member
  have shaped := sound.ownedShaped _ (Registry.isVariableOf_iff.mp owned)
  simp [isIdentifierChar, shaped.allowed c member]

namespace Markup

variable {format : Format} {single : Attribute}

theorem not_mem_of_plain {text : String} (plain : IsPlain text) {c : Char}
    (special : isIdentifierChar c = false) : c ∉ text.toList := by
  intro member
  rw [plain c member] at special
  cases special

theorem escapeAttribute_of_plain {text : String} (plain : IsPlain text) :
    escapeAttribute text = text := by
  have ampersand : '&' ∉ text.toList := not_mem_of_plain plain (by decide)
  have less : '<' ∉ text.toList := not_mem_of_plain plain (by decide)
  have greater : '>' ∉ text.toList := not_mem_of_plain plain (by decide)
  have quote : '"' ∉ text.toList := not_mem_of_plain plain (by decide)
  have apostrophe : '\'' ∉ text.toList := not_mem_of_plain plain (by decide)
  simp only [escapeAttribute, escape, substitute, textEntities, quoteEntities, List.foldl_cons,
    List.foldl_nil, Text.replace_of_not_mem, ampersand, less, greater, quote, apostrophe,
    not_false_eq_true]

mutual

def Inline.attributes : Inline → List Attribute
  | .text _ | .fragment _ => []
  | .element _ attributes content => attributes ++ attributesOfInlines content

def attributesOfInlines : List Inline → List Attribute
  | [] => []
  | first :: rest => first.attributes ++ attributesOfInlines rest

end

mutual

def Block.attributes : Block → List Attribute
  | .line content => content.attributes
  | .element _ attributes children => attributes ++ attributesOfBlocks children

def attributesOfBlocks : List Block → List Attribute
  | [] => []
  | first :: rest => first.attributes ++ attributesOfBlocks rest

end

theorem renderTag_contains (name : ElementName) {attributes : List Attribute}
    (member : single ∈ attributes) :
    Text.contains (renderTag format name attributes) (single.render format) = true :=
  Text.contains_append_right (Text.contains_join (List.mem_map_of_mem member) (Text.contains_self _))

theorem renderStart_contains (name : ElementName) {attributes : List Attribute}
    (member : single ∈ attributes) :
    Text.contains (renderStart format name attributes) (single.render format) = true :=
  Text.contains_append_left (Text.contains_append_right (renderTag_contains name member))

mutual

theorem Inline.render_contains (content : Inline) (member : single ∈ content.attributes) :
    Text.contains (content.render format) (single.render format) = true := by
  cases content with
  | text value => cases member
  | fragment markup => cases member
  | element name attributes children =>
      rw [Inline.attributes, List.mem_append] at member
      cases children with
      | nil =>
          rcases member with member | member
          · exact Text.contains_append_left
              (Text.contains_append_right (renderTag_contains name member))
          · cases member
      | cons first rest =>
          rcases member with member | member
          · exact Text.contains_append_left
              (Text.contains_append_left (renderStart_contains name member))
          · exact Text.contains_append_left
              (Text.contains_append_right (renderInlines_contains (first :: rest) member))

theorem renderInlines_contains (content : List Inline)
    (member : single ∈ attributesOfInlines content) :
    Text.contains (renderInlines format content) (single.render format) = true := by
  cases content with
  | nil => cases member
  | cons first rest =>
      rcases List.mem_append.mp member with member | member
      · exact Text.contains_append_left (first.render_contains member)
      · exact Text.contains_append_right (renderInlines_contains rest member)

end

mutual

theorem Block.render_contains (block : Block) (depth : Nat)
    (member : single ∈ block.attributes) :
    Text.contains (block.render format depth) (single.render format) = true := by
  cases block with
  | line content =>
      exact Text.contains_append_left (Text.contains_append_right (content.render_contains member))
  | element name attributes children =>
      rw [Block.render]
      rcases List.mem_append.mp member with member | member
      · have opened : Text.contains (indent depth ++ renderStart format name attributes)
            (single.render format) = true :=
          Text.contains_append_right (renderStart_contains name member)
        exact Text.contains_append_left (Text.contains_append_left (Text.contains_append_left
          (Text.contains_append_left (Text.contains_append_left opened))))
      · have inner := renderBlocks_contains children (depth + 1) member
        exact Text.contains_append_left (Text.contains_append_left (Text.contains_append_left
          (Text.contains_append_right inner)))

theorem renderBlocks_contains (blocks : List Block) (depth : Nat)
    (member : single ∈ attributesOfBlocks blocks) :
    Text.contains (renderBlocks format depth blocks) (single.render format) = true := by
  cases blocks with
  | nil => cases member
  | cons first rest =>
      rcases List.mem_append.mp member with member | member
      · exact Text.contains_append_left (first.render_contains depth member)
      · exact Text.contains_append_right (renderBlocks_contains rest depth member)

end

/-- An identifier is the value of an attribute in a block. -/
def Block.Shows (block : Block) (name : Identifier) : Prop :=
  ∃ single ∈ block.attributes, single.value = name.text

theorem attributesOfBlocks_eq (blocks : List Block) :
    attributesOfBlocks blocks = blocks.flatMap Block.attributes := by
  induction blocks with
  | nil => rfl
  | cons first rest ih => rw [attributesOfBlocks, ih, List.flatMap_cons]

theorem Block.Shows.of_attribute {element : ElementName} {attributes : List Attribute}
    {children : List Block} (key : AttributeName) (member : ⟨key, name.text⟩ ∈ attributes) :
    (Block.element element attributes children).Shows name :=
  ⟨_, List.mem_append_left _ member, rfl⟩

theorem Block.Shows.of_child {element : ElementName} {attributes : List Attribute}
    {child : Block} {children : List Block} (member : child ∈ children)
    (shown : child.Shows name) : (Block.element element attributes children).Shows name := by
  obtain ⟨single, inside, equal⟩ := shown
  refine ⟨single, List.mem_append_right _ ?_, equal⟩
  rw [attributesOfBlocks_eq]
  exact List.mem_flatMap.mpr ⟨child, member, inside⟩

theorem Block.Shows.of_line {element : ElementName} {attributes : List Attribute}
    {content : List Inline} (key : AttributeName) (member : ⟨key, name.text⟩ ∈ attributes) :
    (Block.line (.element element attributes content)).Shows name :=
  ⟨_, List.mem_append_left _ member, rfl⟩

theorem Attribute.render_quotes (format : Format) (single : Attribute) :
    Text.contains (single.render format) ("\"" ++ escapeAttribute single.value ++ "\"") = true := by
  rw [Text.contains_iff_inside]
  refine ⟨(" " ++ single.name.spelling.in format ++ "=").toList, [], ?_⟩
  simp [Attribute.render, String.toList_append]

/-- An identifier of plain characters is written in quotes in the document of a tree that shows
it. -/
theorem Block.Shows.quoted {root : Block} (shown : root.Shows name)
    (plain : IsPlain name.text) (format : Format) :
    Text.contains (renderDocument format root) ("\"" ++ name.text ++ "\"") = true := by
  obtain ⟨single, member, equal⟩ := shown
  have held : Text.contains (root.render format 0) (single.render format) = true :=
    root.render_contains 0 member
  have quotes := single.render_quotes format
  rw [equal, escapeAttribute_of_plain plain] at quotes
  exact Text.contains_append_right (Text.contains_trans held quotes)

end Markup

end QuizPackage
