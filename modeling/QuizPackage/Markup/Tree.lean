import QuizPackage.Markup.Escape
import QuizPackage.Markup.Vocabulary

/-!
# Markup trees

Documents as trees of elements. Some elements stand on a line of their own, and others part their
content into lines. Trees become text in `Block.render` only, so every value is escaped there;
fragments of markup are taken as they are.
-/

namespace QuizPackage.Markup

structure Attribute where
  name : AttributeName
  value : String
deriving DecidableEq, Repr

/-- What stands within a line. -/
inductive Inline where
  | text (value : String)
  /-- Markup that is already written. -/
  | fragment (markup : String)
  | element (name : ElementName) (attributes : List Attribute) (content : List Inline)

/-- What takes whole lines. -/
inductive Block where
  | line (content : Inline)
  | element (name : ElementName) (attributes : List Attribute) (children : List Block)

/-- An element without content, on a line of its own. -/
def Block.empty (name : ElementName) (attributes : List Attribute) : Block :=
  .line (.element name attributes [])

def Block.text (name : ElementName) (attributes : List Attribute) (value : String) : Block :=
  .line (.element name attributes [.text value])

def Block.fragment (name : ElementName) (attributes : List Attribute) (markup : String) : Block :=
  .line (.element name attributes [.fragment markup])

def flag (holds : Bool) : String :=
  if holds then "true" else "false"

/-- The blanks in front of a line, two for each level. -/
def indent (depth : Nat) : String :=
  String.ofList (List.replicate (2 * depth) ' ')

def Attribute.render (format : Format) (single : Attribute) : String :=
  " " ++ single.name.spelling.in format ++ "=\"" ++ escapeAttribute single.value ++ "\""

def renderTag (format : Format) (name : ElementName) (attributes : List Attribute) : String :=
  name.spelling.in format ++ String.join (attributes.map (Attribute.render format))

def renderStart (format : Format) (name : ElementName) (attributes : List Attribute) : String :=
  "<" ++ renderTag format name attributes ++ ">"

def renderEnd (format : Format) (name : ElementName) : String :=
  "</" ++ name.spelling.in format ++ ">"

mutual

def Inline.render (format : Format) : Inline → String
  | .text value => escape value
  | .fragment markup => markup
  | .element name attributes [] => "<" ++ renderTag format name attributes ++ "/>"
  | .element name attributes (first :: rest) =>
      renderStart format name attributes ++ (first.render format ++ renderInlines format rest) ++
        renderEnd format name

def renderInlines (format : Format) : List Inline → String
  | [] => ""
  | first :: rest => first.render format ++ renderInlines format rest

end

mutual

def Block.render (format : Format) (depth : Nat) : Block → String
  | .line content => indent depth ++ content.render format ++ "\n"
  | .element name attributes children =>
      indent depth ++ renderStart format name attributes ++ "\n" ++
        renderBlocks format (depth + 1) children ++
        indent depth ++ renderEnd format name ++ "\n"

def renderBlocks (format : Format) (depth : Nat) : List Block → String
  | [] => ""
  | first :: rest => first.render format depth ++ renderBlocks format depth rest

end

/-- What every document starts with. -/
def declaration : String :=
  "<?xml version=\"1.0\" encoding=\"UTF-8\"?>\n"

def renderDocument (format : Format) (root : Block) : String :=
  declaration ++ root.render format 0

end QuizPackage.Markup
