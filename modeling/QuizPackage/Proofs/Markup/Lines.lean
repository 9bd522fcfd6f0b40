import QuizPackage.Markup.Tree
import Mathlib.Data.List.Count

namespace QuizPackage

namespace Text

def lineFeeds (text : String) : Nat :=
  text.toList.count '\n'

/-- The lines of a text, each ended by a line feed; the last need not be. -/
def lineCount (text : String) : Nat :=
  if text.toList.getLast?.all (· == '\n') then lineFeeds text else lineFeeds text + 1

@[simp]
theorem lineFeeds_append (front back : String) :
    lineFeeds (front ++ back) = lineFeeds front + lineFeeds back := by
  rw [lineFeeds, String.toList_append, List.count_append]
  rfl

theorem lineFeeds_ofList (letters : List Char) :
    lineFeeds (String.ofList letters) = letters.count '\n' := by
  rw [lineFeeds, String.toList_ofList]

theorem lineCount_of_ended {text front : String} (ended : text = front ++ "\n") :
    lineCount text = lineFeeds text := by
  have last : text.toList.getLast? = some '\n' := by
    rw [ended, String.toList_append]
    exact List.getLast?_concat
  rw [lineCount, last]
  rfl

theorem replaceFrom_count {c : Char} {entity : List Char} (other : c ≠ '\n')
    (flat : '\n' ∉ entity) (text : List Char) :
    (replaceFrom [c] entity 0 text).count '\n' = text.count '\n' := by
  induction text with
  | nil => rfl
  | cons first rest ih =>
      by_cases same : c = first
      · subst same
        simp [replaceFrom, List.isPrefixOf, List.count_eq_zero_of_not_mem flat, ih, other]
      · simp [replaceFrom, List.isPrefixOf, same, List.count_cons, ih]

theorem lineFeeds_replace {c : Char} {entity : String} (other : c ≠ '\n')
    (flat : '\n' ∉ entity.toList) (text : String) :
    lineFeeds (replace c.toString entity text) = lineFeeds text := by
  have single : c.toString.toList = [c] := by simp
  rw [replace, replaceChars, single, lineFeeds_ofList, replaceFrom_count other flat]
  rfl

end Text

namespace Markup

open Text

variable {format : Format}

theorem lineFeeds_substitute {entities : List (Char × String)}
    (flat : ∀ entry ∈ entities, entry.1 ≠ '\n' ∧ '\n' ∉ entry.2.toList) (text : String) :
    lineFeeds (substitute entities text) = lineFeeds text := by
  unfold substitute
  induction entities generalizing text with
  | nil => rfl
  | cons entry rest ih =>
      obtain ⟨other, without⟩ := flat entry List.mem_cons_self
      rw [List.foldl_cons, ih fun later member => flat later (List.mem_cons_of_mem _ member)]
      exact lineFeeds_replace other without text

theorem lineFeeds_escape (text : String) : lineFeeds (escape text) = lineFeeds text :=
  lineFeeds_substitute (by decide) text

theorem lineFeeds_escapeAttribute (text : String) :
    lineFeeds (escapeAttribute text) = lineFeeds text :=
  (lineFeeds_substitute (by decide) _).trans (lineFeeds_escape text)

def attributesFeeds : List Attribute → Nat
  | [] => 0
  | first :: rest => lineFeeds first.value + attributesFeeds rest

mutual

/-- The line feeds of what stands within a line. -/
def Inline.feeds : Inline → Nat
  | .text value => lineFeeds value
  | .fragment markup => lineFeeds markup
  | .element _ attributes content => attributesFeeds attributes + feedsOfInlines content

def feedsOfInlines : List Inline → Nat
  | [] => 0
  | first :: rest => first.feeds + feedsOfInlines rest

end

mutual

/-- The line feeds of a block. An element stands on two lines, with its children between them. -/
def Block.feeds : Block → Nat
  | .line content => content.feeds + 1
  | .element _ attributes children => attributesFeeds attributes + feedsOfBlocks children + 2

def feedsOfBlocks : List Block → Nat
  | [] => 0
  | first :: rest => first.feeds + feedsOfBlocks rest

end

-- A name is taken as the list of its letters, since computing that list from it is slow.
theorem ElementName.lineFeeds_spelling (name : ElementName) (format : Format) :
    lineFeeds (name.spelling.in format) = 0 := by
  cases format <;> cases name <;> exact (lineFeeds_ofList _).trans rfl

theorem AttributeName.lineFeeds_spelling (name : AttributeName) (format : Format) :
    lineFeeds (name.spelling.in format) = 0 := by
  cases format <;> cases name <;> exact (lineFeeds_ofList _).trans rfl

theorem lineFeeds_indent (depth : Nat) : lineFeeds (indent depth) = 0 := by
  simp [indent, lineFeeds_ofList, List.count_replicate]

theorem Attribute.lineFeeds_render (single : Attribute) :
    lineFeeds (single.render format) = lineFeeds single.value := by
  have marks : lineFeeds " " = 0 ∧ lineFeeds "=\"" = 0 ∧ lineFeeds "\"" = 0 := ⟨rfl, rfl, rfl⟩
  simp [Attribute.render, AttributeName.lineFeeds_spelling, lineFeeds_escapeAttribute, marks]

theorem lineFeeds_renderTag (name : ElementName) (attributes : List Attribute) :
    lineFeeds (renderTag format name attributes) = attributesFeeds attributes := by
  rw [renderTag, lineFeeds_append, ElementName.lineFeeds_spelling, Nat.zero_add]
  induction attributes with
  | nil => rfl
  | cons first rest ih =>
      rw [List.map_cons, String.join_cons, lineFeeds_append, first.lineFeeds_render, ih,
        attributesFeeds]

theorem lineFeeds_renderStart (name : ElementName) (attributes : List Attribute) :
    lineFeeds (renderStart format name attributes) = attributesFeeds attributes := by
  have marks : lineFeeds "<" = 0 ∧ lineFeeds ">" = 0 := ⟨rfl, rfl⟩
  simp [renderStart, lineFeeds_renderTag, marks]

theorem lineFeeds_renderEnd (name : ElementName) : lineFeeds (renderEnd format name) = 0 := by
  have marks : lineFeeds "</" = 0 ∧ lineFeeds ">" = 0 := ⟨rfl, rfl⟩
  simp [renderEnd, ElementName.lineFeeds_spelling, marks]

mutual

theorem Inline.lineFeeds_render (content : Inline) :
    lineFeeds (content.render format) = content.feeds := by
  cases content with
  | text value => exact lineFeeds_escape value
  | fragment markup => rfl
  | element name attributes children =>
      cases children with
      | nil =>
          have marks : lineFeeds "<" = 0 ∧ lineFeeds "/>" = 0 := ⟨rfl, rfl⟩
          simp [Inline.render, Inline.feeds, feedsOfInlines, lineFeeds_renderTag, marks]
      | cons first rest =>
          simp [Inline.render, Inline.feeds, feedsOfInlines, lineFeeds_renderStart,
            lineFeeds_renderEnd, first.lineFeeds_render, lineFeeds_renderInlines rest]

theorem lineFeeds_renderInlines (content : List Inline) :
    lineFeeds (renderInlines format content) = feedsOfInlines content := by
  cases content with
  | nil => rfl
  | cons first rest =>
      simp [renderInlines, feedsOfInlines, first.lineFeeds_render, lineFeeds_renderInlines rest]

end

mutual

theorem Block.lineFeeds_render (block : Block) (depth : Nat) :
    lineFeeds (block.render format depth) = block.feeds := by
  have ended : lineFeeds "\n" = 1 := rfl
  cases block with
  | line content =>
      simp [Block.render, Block.feeds, lineFeeds_indent, content.lineFeeds_render, ended]
  | element name attributes children =>
      simp only [Block.render, Block.feeds, lineFeeds_append, lineFeeds_indent,
        lineFeeds_renderStart, lineFeeds_renderEnd, lineFeeds_renderBlocks children, ended]
      omega

theorem lineFeeds_renderBlocks (blocks : List Block) (depth : Nat) :
    lineFeeds (renderBlocks format depth blocks) = feedsOfBlocks blocks := by
  cases blocks with
  | nil => rfl
  | cons first rest =>
      simp [renderBlocks, feedsOfBlocks, first.lineFeeds_render, lineFeeds_renderBlocks rest]

end

theorem Block.render_ended (format : Format) (block : Block) (depth : Nat) :
    ∃ front, block.render format depth = front ++ "\n" := by
  cases block <;> exact ⟨_, rfl⟩

/-- A document takes the lines of its tree and one for its declaration. -/
theorem lineCount_renderDocument (root : Block) :
    lineCount (renderDocument format root) = root.feeds + 1 := by
  obtain ⟨front, ended⟩ := root.render_ended format 0
  have last : renderDocument format root = (declaration ++ front) ++ "\n" := by
    rw [renderDocument, ended, String.append_assoc]
  have first : lineFeeds declaration = 1 := rfl
  rw [lineCount_of_ended last, renderDocument, lineFeeds_append, root.lineFeeds_render, first,
    Nat.add_comm]

end Markup

end QuizPackage
