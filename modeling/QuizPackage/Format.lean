import QuizPackage.Text.Case

namespace QuizPackage

/-- The versions of the interchange format that a package can be written in. -/
inductive Format where
  | qti21
  | qti30
deriving DecidableEq, Repr

def Format.standard : Format := .qti30

def Format.name : Format → String
  | .qti21 => "qti21"
  | .qti30 => "qti30"

/-- A spelling in small letters and without dots, hyphens and underscores. -/
def Format.normalized (text : String) : String :=
  String.ofList ((Text.lower text).toList.filter fun c => c != '.' && c != '-' && c != '_')

def Format.read (text : String) : Except String Format :=
  let spelling := Format.normalized text
  if spelling == "qti21" || spelling == "21" then
    .ok .qti21
  else if spelling == "qti30" || spelling == "qti3" || spelling == "30" || spelling == "3" then
    .ok .qti30
  else
    .error spelling

def Format.unknown (spelling : String) : String :=
  "unknown package format: " ++ spelling

end QuizPackage
