import QuizPackage.Item.Building
import QuizPackage.Manifest.Building
import QuizPackage.Test.Building

/-!
# Plans

Everything that a package says, before any version of the format shapes it: the items, the test
and the manifest, with the registry that issued their identifiers.
-/

namespace QuizPackage

/-- How a package is planned. -/
structure Options where
  strict : Bool
  suffix : String
  shuffle : Bool

/-- A part of a quiz that becomes one item. -/
inductive Piece where
  | question (location : Location) (single : Question)
  | text (entry : Nat) (region : TextRegion)

def Entry.pieces (index : Nat) : Entry → List Piece
  | .question single => [.question (.top index) single]
  | .group pool =>
      pool.questions.zipIdx.map fun (single, member) => .question (.inGroup index member) single
  | .text region => [.text index region]

def Quiz.pieces (quiz : Quiz) : List Piece :=
  quiz.entries.zipIdx.flatMap fun (entry, index) => entry.pieces index

def buildPiece (shuffle : Bool) : Piece → Issuing Item
  | .question location single => buildItem single location shuffle
  | .text entry region => buildTextItem region entry

/-- The documents of a package and the registry of their identifiers. -/
structure Plan where
  registry : Registry
  items : List Item
  test : Test
  manifest : Manifest

/-- Builds all items, then the test, then the manifest. -/
def buildAll (quiz : Quiz) (assets : AssetMap) (shuffle : Bool) :
    Issuing (List Item × Test × Manifest) := do
  let items ← quiz.pieces.mapM (buildPiece shuffle)
  let test ← buildTest quiz
  let manifest ← buildManifest quiz test items assets
  return (items, test, manifest)

/-- Plans the package of a quiz. -/
def plan (options : Options) (quiz : Quiz) (assets : AssetMap) : Except Problem Plan :=
  match buildAll quiz assets options.shuffle (Registry.empty options.suffix options.strict) with
  | .ok (items, test, manifest) registry => .ok ⟨registry, items, test, manifest⟩
  | .error problem _ => .error problem

end QuizPackage
