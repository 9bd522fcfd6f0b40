import QuizPackage.Proofs.Item.AssetLinks
import QuizPackage.Proofs.Item.Feedback
import QuizPackage.Proofs.Markup.Decoding
import QuizPackage.Proofs.Package.Plan
import QuizPackage.Proofs.Page.WellFormed

/-!
# Sources in built markup

The markup of an item is that of its piece with the assets of the piece linked. A source leads to an
asset if its address is spelled as the asset is listed. An address that only means the name of an
asset, since it is spelled with entities, is not found.
-/

namespace QuizPackage

open Markup

variable {question : Question} {issued : ItemIdentifiers} {location : Location}
  {registry after : Registry} {synthesis : Synthesis} {shuffle : Bool} {piece : Piece} {item : Item}
  {names : List String} {markup : String}

/-- The prompt of a question, and the texts of its choices and its feedback. -/
def Question.fragments (question : Question) : List String :=
  question.prompt :: question.kind.choices.map Choice.text ++
    question.feedbackBodies.inItemOrder.filterMap id

/-- The markup that a piece brings. -/
def Piece.fragments : Piece → List String
  | .question _ single => single.fragments
  | .text _ region => [region.text]

theorem Question.interaction_bodies (shuffle : Bool)
    (counted : issued.choices.length = question.kind.choices.length) :
    (question.interaction issued shuffle).choices.map SimpleChoice.body =
      (question.kind.choices.map Choice.text).map (linkAssets question.assets) := by
  have texts : (question.kind.choices.zip issued.choices).map Prod.fst = question.kind.choices :=
    List.map_fst_zip (Nat.le_of_eq counted.symm)
  conv => rhs; rw [← texts]
  simp only [Question.interaction_choices, List.map_map]
  rfl

/-- The markup of an item is that of its piece, with the assets of the piece linked. -/
theorem Piece.BuiltAs.fragments (built : piece.BuiltAs registry shuffle item) :
    item.fragments = piece.fragments.map (linkAssets piece.assets) := by
  cases built with
  | text => rfl
  | @question location single identifiers bound =>
      have choices := single.interaction_bodies shuffle bound.choices_length
      have feedback := (single.feedbackBlocks_parts bound).2
      simp only [Item.fragments, Question.item, ItemBody.fragments, choices, feedback,
        Piece.fragments, Question.fragments, Piece.assets, List.map_append, List.map_cons]

/-- What becomes of the address of a source. A listed address is led to the asset. One that is not
listed stays as it is, unless a listed name holds the quote. Only an address that was led decodes to
where the asset of its decoded name lies. -/
structure AddressFollows (names : List String) (quote : Char) (value newValue : String) :
    Prop where
  listed : value ∈ names → newValue = assetHref value
  unlisted : value ∉ names → (∀ name ∈ names, quote ∉ name.toList) → newValue = value
  resolves_iff : decode newValue = assetHref (decode value) ↔ newValue = assetHref value

/-- For each source of the markup, the built markup has one whose address follows from its own.
Around it, too, nothing but addresses changes. -/
def SourcesFollow (names : List String) (markup built : String) : Prop :=
  ∀ (front : String) (quote : Char) (value back : String), IsAddress quote value.toList →
    markup = front ++ sourceAttribute quote value ++ back →
      ∃ newFront newValue newBack,
        built = newFront ++ sourceAttribute quote newValue ++ newBack ∧
        Linked front.toList newFront.toList ∧ Linked back.toList newBack.toList ∧
        AddressFollows names quote value newValue

theorem decode_assetHref (name : String) : decode (assetHref name) = assetHref (decode name) := by
  have led (name : String) : assetHref name = "../assets/" ++ name := by
    rw [← String.toList_inj, assetHref_toList, String.toList_append]
    rfl
  rw [led, led, decode_append (by decide)]

theorem assetHref_ne_self (name : String) : assetHref name ≠ name := by
  intro same
  have longer := assetHref_toList name
  rw [same] at longer
  exact absurd (List.self_eq_append_left.mp longer) (by decide)

theorem sourcesFollow_linkAssets (proper : ∀ name ∈ names, isAssetName name = true)
    (markup : String) : SourcesFollow names markup (linkAssets names markup) := by
  intro front quote value back isAddress equal
  subst equal
  obtain ⟨newFront, newValue, newBack, built, ofFront, ofBack, outcome⟩ :=
    linkAssets_source proper isAddress front back
  refine ⟨newFront, newValue, newBack, built, ofFront, ofBack, ?_⟩
  rcases outcome with ⟨rfl, unlisted⟩ | ⟨rfl, name, listed, begins⟩
  · exact ⟨fun listed => (unlisted listed).elim, fun _ _ => rfl,
      iff_of_false (assetHref_ne_self _).symm (assetHref_ne_self _).symm⟩
  · refine ⟨fun _ => rfl, fun unlisted plain => ?_, ?_⟩
    · have same : value = name :=
        String.toList_inj.mp (eq_of_closed (plain name listed) begins)
      exact (unlisted (same ▸ listed)).elim
    · simp [decode_assetHref]

/-- In the prompt, the choices and the feedback of a question and in a region of text, every source
whose address is spelled as an asset is listed leads to the asset, and no other source does if no
listed name holds its quote: an address that only decodes to the name of an asset stays as it is,
and so it does not decode to where the asset is. -/
theorem built_sources_lead_to_assets_as_listed
    (ran : buildPiece shuffle piece registry = .ok item after) :
    List.Forall₂ (SourcesFollow piece.assets) piece.fragments item.fragments := by
  obtain ⟨fine, built⟩ := buildPiece_ok ran
  rw [built.fragments, List.forall₂_map_right_iff, List.forall₂_same]
  exact fun markup _ => sourcesFollow_linkAssets (Piece.problem?_eq_none_iff.mp fine).named markup

def spices : TextRegion :=
  { title := some "Spices"
    text :=
      "<p>Pass <img src=\"salt&amp;pepper.png\" alt=\"\"/> and <img src='cumin.png' alt=''/>.</p>"
    assets := ["salt&pepper.png", "cumin.png"] }

theorem spices_built :
    ∃ item after, buildPiece false (.text 0 spices) (Registry.empty "" false) = .ok item after := by
  have fine : (Piece.text 0 spices).problem? = none :=
    Option.isNone_iff_eq_none.mp (by decide +kernel)
  have lenient : (Registry.empty "" false).strict = false := rfl
  exact Issuing.verdict_eq_none.mp
    ((buildPiece_verdict lenient false (.text 0 spices)).trans fine)

theorem spices_source_leads_to_cumin :
    ∃ item after front back,
      buildPiece false (.text 0 spices) (Registry.empty "" false) = .ok item after ∧
      item.fragments = [front ++ sourceAttribute '\'' "../assets/cumin.png" ++ back] := by
  obtain ⟨item, after, ran⟩ := spices_built
  obtain ⟨built, rest, follows, nothing, only⟩ :=
    List.forall₂_cons_left_iff.mp (built_sources_lead_to_assets_as_listed ran)
  obtain rfl := List.forall₂_nil_left_iff.mp nothing
  obtain ⟨front, newValue, back, rfl, _, _, address⟩ := follows
    "<p>Pass <img src=\"salt&amp;pepper.png\" alt=\"\"/> and <img " '\'' "cumin.png"
    " alt=''/>.</p>"
    ⟨by decide, by decide, forall_quotes.mpr ⟨by decide, by decide⟩⟩ (by decide)
  obtain rfl : newValue = "../assets/cumin.png" := address.listed (by decide)
  exact ⟨item, after, front, back, ran, only⟩

theorem spices_linked :
    linkAssets spices.assets spices.text =
      "<p>Pass <img " ++ sourceAttribute '"' "salt&amp;pepper.png" ++
        " alt=\"\"/> and <img src='../assets/cumin.png' alt=''/>.</p>" := by
  rw [← String.toList_inj, linkAssets_toList]
  simp only [String.toList_append, sourceAttribute_toList, spices, String.reduceToList]
  decide +kernel

/-- The address of the salt decodes to the name of an asset and stays as it is all the same, so it
does not decode to where the asset is. -/
theorem spices_source_leads_past_salt :
    ∃ item after front back newBack,
      buildPiece false (.text 0 spices) (Registry.empty "" false) = .ok item after ∧
      spices.text = front ++ sourceAttribute '"' "salt&amp;pepper.png" ++ back ∧
      decode "salt&amp;pepper.png" = "salt&pepper.png" ∧ "salt&pepper.png" ∈ spices.assets ∧
      item.fragments = [front ++ sourceAttribute '"' "salt&amp;pepper.png" ++ newBack] ∧
      decode "salt&amp;pepper.png" ≠ assetHref "salt&pepper.png" := by
  obtain ⟨item, after, ran⟩ := spices_built
  have read : decode "salt&amp;pepper.png" = "salt&pepper.png" := by decide +kernel
  exact ⟨item, after, _, " alt=\"\"/> and <img src='cumin.png' alt=''/>.</p>", _, ran,
    by decide +kernel, read, by decide,
    (buildPiece_ok ran).2.fragments.trans (congrArg (fun built => [built]) spices_linked),
    by rw [read]; decide +kernel⟩

end QuizPackage
