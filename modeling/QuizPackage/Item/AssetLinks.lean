import QuizPackage.Problem
import QuizPackage.Text.Occurrence

/-!
# Asset links

Markup refers to an embedded asset by its bare name. An item lies in a directory of its own, so
these references are changed to lead to the directory of the assets.
-/

namespace QuizPackage

def sourceAttribute (quote : Char) (address : String) : String :=
  "src=" ++ quote.toString ++ address ++ quote.toString

def linkAsset (markup name : String) : String :=
  let relink (markup : String) (quote : Char) : String :=
    Text.replace (sourceAttribute quote name) (sourceAttribute quote (assetHref name)) markup
  relink (relink markup '"') '\''

def linkAssets (names : List String) (markup : String) : String :=
  names.foldl linkAsset markup

def improperAssetName? (names : List String) : Option IntegrityFault :=
  (names.find? fun name => !isAssetName name).map .improperAssetName

/-- Markup with its assets linked, unless one of the names is improper. -/
def linkProperAssets (names : List String) (markup : String) : Except Problem String :=
  match improperAssetName? names with
  | some fault => .error (.integrity fault)
  | none => .ok (linkAssets names markup)

end QuizPackage
