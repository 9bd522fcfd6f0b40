import QuizPackage.Package.Plan
import QuizPackage.Proofs.Item.Building

namespace QuizPackage

def Piece.entity : Piece → Entity
  | .question location _ => .question location
  | .text entry _ => .text entry

/-- The entities that identifiers are issued for when a piece is built. -/
def Piece.Owns : Piece → Entity → Prop
  | .question location _ => Entity.IsPartOf location
  | .text entry _ => Eq (.text entry)

def Piece.assets : Piece → List String
  | .question _ single => single.assets
  | .text _ region => region.assets

def Piece.problem? : Piece → Option Problem
  | .question location single => single.problem? location
  | .text _ region => region.problem?

def Entity.IsOfItem (entity : Entity) : Prop :=
  ∃ piece : Piece, piece.Owns entity

/-- An item is that of a piece, with identifiers that a registry holds. -/
inductive Piece.BuiltAs (registry : Registry) (shuffle : Bool) : Piece → Item → Prop
  | question {location : Location} {single : Question} {identifiers : ItemIdentifiers}
      (bound : identifiers.BoundIn single location registry) :
      BuiltAs registry shuffle (.question location single)
        (single.item identifiers (single.synthesis identifiers) location shuffle)
  | text {entry : Nat} {region : TextRegion} {identifier score : Identifier}
      (bound : registry.lookup (.text entry) = some identifier)
      (owned : registry.isVariableOf identifier score = true) :
      BuiltAs registry shuffle (.text entry region) (region.item identifier score)

variable {registry before after : Registry} {permitted : Entity → Prop} {shuffle : Bool}
  {piece : Piece} {item : Item} {quiz : Quiz} {items : List Item}

theorem Piece.BuiltAs.mono (built : piece.BuiltAs before shuffle item)
    (reaches : before.Reaches permitted after) : piece.BuiltAs after shuffle item := by
  cases built with
  | question bound => exact .question (bound.mono reaches)
  | text bound owned => exact .text (reaches.lookup_eq_some bound) (reaches.isVariableOf owned)

theorem Piece.BuiltAs.lookup (built : piece.BuiltAs registry shuffle item) :
    registry.lookup piece.entity = some item.identifier := by
  cases built with
  | question bound => exact bound.item
  | text bound owned => exact bound

theorem Piece.BuiltAs.assets (built : piece.BuiltAs registry shuffle item) :
    item.assets = piece.assets.eraseDups := by
  cases built <;> rfl

theorem buildPiece_within (shuffle : Bool) (piece : Piece) :
    (buildPiece shuffle piece).Within Entity.IsOfItem := by
  cases piece with
  | question location single =>
      refine (buildItem_within single location shuffle).mono fun entity owned => ?_
      exact ⟨.question location single, owned⟩
  | text entry region =>
      refine (buildTextItem_within region entry).mono fun entity owned => ?_
      exact ⟨.text entry region, owned⟩

theorem buildPiece_ok (ran : buildPiece shuffle piece registry = .ok item after) :
    piece.problem? = none ∧ piece.BuiltAs after shuffle item := by
  cases piece with
  | question location single =>
      obtain ⟨fine, identifiers, bound, rfl⟩ := buildItem_ok ran
      exact ⟨fine, .question bound⟩
  | text entry region =>
      obtain ⟨fine, identifier, score, bound, owned, rfl⟩ := buildTextItem_ok ran
      exact ⟨fine, .text bound owned⟩

theorem buildPiece_verdict (lenient : registry.strict = false) (shuffle : Bool) (piece : Piece) :
    (buildPiece shuffle piece).verdict registry = piece.problem? := by
  cases piece with
  | question location single => exact buildItem_verdict lenient single location shuffle
  | text entry region => exact buildTextItem_verdict lenient region entry

theorem buildItems_within (quiz : Quiz) (shuffle : Bool) :
    (quiz.pieces.mapM (buildPiece shuffle)).Within Entity.IsOfItem :=
  .mapM _ fun piece _ => buildPiece_within shuffle piece

theorem buildItems_ok (ran : quiz.pieces.mapM (buildPiece shuffle) registry = .ok items after) :
    List.Forall₂ (Piece.BuiltAs after shuffle) quiz.pieces items :=
  Issuing.mapM_ok (fun piece item registry => piece.BuiltAs registry shuffle item)
    (fun piece _ => buildPiece_within shuffle piece)
    (fun _ _ _ _ reaches built => built.mono reaches)
    (fun _ _ _ _ _ _ ran => (buildPiece_ok ran).2) ran

/-- Without strictness, the first piece with a problem decides why the items are not built. -/
theorem buildItems_verdict (lenient : registry.strict = false) (quiz : Quiz) (shuffle : Bool) :
    (quiz.pieces.mapM (buildPiece shuffle)).verdict registry =
      quiz.pieces.findSome? Piece.problem? :=
  Issuing.verdict_mapM Piece.problem? (fun piece _ => buildPiece_within shuffle piece)
    fun piece _ _ reaches => buildPiece_verdict (reaches.grows.strict.trans lenient) shuffle piece

end QuizPackage
