import QuizPackage.Identifier
import QuizPackage.Text.Blank

namespace QuizPackage

def greatestBaseLength : Nat := 40

/-- Whether a character of a hint is kept. -/
def isKept (c : Char) : Bool :=
  c.isAlphanum || c == '-' || c == '.'

/-- The characters kept from a hint, in small letters. Each run of other characters becomes one
underscore, except at the start. `last` is the character written before. -/
def collapse (last : Option Char) : List Char → List Char
  | [] => []
  | c :: rest =>
      if isKept c then
        c.toLower :: collapse (some c.toLower) rest
      else if last == none || last == some '_' then
        collapse last rest
      else
        '_' :: collapse (some '_') rest

def isJoiner (c : Char) : Bool :=
  c == '_' || c == '-' || c == '.'

/-- A list of characters without the joiners at its end. -/
def dropJoiners (text : List Char) : List Char :=
  (text.reverse.dropWhile isJoiner).reverse

def sanitizeChars (hint : List Char) : List Char :=
  dropJoiners ((collapse none (Text.trimChars hint)).take greatestBaseLength)

/-- A hint reduced to small letters, digits, underscores, hyphens and dots. -/
def sanitize (hint : String) : String :=
  String.ofList (sanitizeChars hint.toList)

/-- The base of an identifier. It starts with a letter: that of the sanitized hint, or else the
stem of the kind. -/
def baseFor (kind : IdentifierKind) (hint : Option String) : String :=
  let sanitized := (hint.map sanitize).getD ""
  match sanitized.toList with
  | [] => kind.stem
  | first :: _ => if first.isAlpha then sanitized else kind.stem ++ "_" ++ sanitized

def numbered (base : String) (number : Nat) : String :=
  base ++ "_" ++ toString number

/-- The first numbered base from `number` on that is not taken, of which at most `fuel` are. -/
def firstFreeFrom (base : String) (taken : List String) : (fuel number : Nat) → String
  | 0, number => numbered base number
  | fuel + 1, number =>
      if taken.contains (numbered base number) then
        firstFreeFrom base taken fuel (number + 1)
      else
        numbered base number

/-- A base that is not taken: itself, or the first numbered one from two on. There are fewer taken
numbered ones than taken names, so the search always meets a free one. -/
def firstFree (base : String) (taken : List String) : String :=
  if taken.contains base then firstFreeFrom base taken taken.length 2 else base

end QuizPackage
