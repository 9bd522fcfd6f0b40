import QuizPackage.Text.Occurrence

namespace QuizPackage.Markup

/-- The entities of text. The ampersand stands first, so that no entity is escaped again. -/
def textEntities : List (Char × String) := [
  ('&', "&amp;"),
  ('<', "&lt;"),
  ('>', "&gt;")]

def quoteEntities : List (Char × String) := [
  ('"', "&quot;"),
  ('\'', "&apos;")]

/-- A text in which every character of a list of entities is written as its entity. -/
def substitute (entities : List (Char × String)) (text : String) : String :=
  entities.foldl (fun text (c, entity) => Text.replace c.toString entity text) text

def escape (text : String) : String :=
  substitute textEntities text

def escapeAttribute (text : String) : String :=
  substitute quoteEntities (escape text)

end QuizPackage.Markup
