namespace QuizPackage.Text

def occurs (pattern : List Char) : List Char → Bool
  | [] => pattern.isEmpty
  | c :: rest => pattern.isPrefixOf (c :: rest) || occurs pattern rest

def contains (text pattern : String) : Bool :=
  occurs pattern.toList text.toList

/-- Replaces the occurrences of a non-empty pattern from left to right, none overlapping the one
before it. `skip` counts the characters that still belong to an occurrence already replaced. -/
def replaceFrom (pattern replacement : List Char) : (skip : Nat) → List Char → List Char
  | _, [] => []
  | skip + 1, _ :: rest => replaceFrom pattern replacement skip rest
  | 0, c :: rest =>
      if pattern.isPrefixOf (c :: rest) then
        replacement ++ replaceFrom pattern replacement (pattern.length - 1) rest
      else
        c :: replaceFrom pattern replacement 0 rest

/-- A list of characters with every occurrence of a non-empty pattern replaced. -/
def replaceChars (pattern replacement text : List Char) : List Char :=
  replaceFrom pattern replacement 0 text

/-- A text with every occurrence of a non-empty pattern replaced. -/
def replace (pattern replacement text : String) : String :=
  String.ofList (replaceChars pattern.toList replacement.toList text.toList)

end QuizPackage.Text
