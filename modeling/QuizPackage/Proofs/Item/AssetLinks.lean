import Mathlib.Logic.Relation
import QuizPackage.Item.AssetLinks
import QuizPackage.Proofs.Path.Parts
import QuizPackage.Proofs.Text.Replacing

/-!
# Linked assets

Each name of an asset is put behind the directory of the assets, wherever it is the whole address of
a source, in a pass for double quotes and one for single quotes. What a pass finds is decided by how
an address is spelled, and what it changes is not found again, since no name leads out of the
directory. So the address of a source is changed at most once, whatever the order of the passes, and
it is changed if it is listed.
-/

namespace QuizPackage

open Text

variable {quote other : Char} {value name front back tail text out : List Char}
  {passes : List (Char × List Char)}

def quotes : List Char := ['"', '\'']

def sourceMark : List Char := "src=".toList

def sourceOpening (quote : Char) : List Char := sourceMark ++ [quote]

/-- The letters of a source with its address. -/
def source (quote : Char) (address : List Char) : List Char :=
  sourceOpening quote ++ (address ++ [quote])

/-- What is put in front of the name of an asset. -/
def assetLead : List Char := (assetHref "").toList

theorem sourceAttribute_toList (quote : Char) (address : String) :
    (sourceAttribute quote address).toList = source quote address.toList := by
  simp [sourceAttribute, source, sourceOpening, sourceMark]

theorem assetHref_toList (name : String) : (assetHref name).toList = assetLead ++ name.toList := by
  simp [assetHref, assetPath, assetLead]

/-- An address that its quote ends, and that no other source begins in. -/
structure IsAddress (quote : Char) (address : List Char) : Prop where
  quoted : quote ∈ quotes
  unquoted : quote ∉ address
  alone : ∀ other ∈ quotes, ¬sourceOpening other <:+: address ++ [quote]

theorem forall_quotes {p : Char → Prop} : (∀ quote ∈ quotes, p quote) ↔ p '"' ∧ p '\'' := by
  simp [quotes]

theorem not_mem_sourceMark : ∀ quote ∈ quotes, quote ∉ sourceMark :=
  forall_quotes.mpr ⟨by decide, by decide⟩

theorem not_mem_assetLead : ∀ quote ∈ quotes, quote ∉ assetLead :=
  forall_quotes.mpr ⟨by decide, by decide⟩

/-- No part of an opening but its beginning begins an opening. -/
theorem not_mem_sourceOpening_tail : ∀ quote ∈ quotes, 's' ∉ (sourceOpening quote).tail :=
  forall_quotes.mpr ⟨by decide, by decide⟩

theorem sourceOpening_ne_nil : sourceOpening quote ≠ [] := by
  simp [sourceOpening]

/-- What stands in an opening before any of its end is part of the mark. -/
theorem prefix_sourceMark {inside outside : List Char}
    (split : sourceOpening quote = inside ++ outside) (filled : outside ≠ []) :
    inside <+: sourceMark := by
  have begins : inside <+: sourceMark ++ [quote] := ⟨outside, split.symm⟩
  rcases List.prefix_concat_iff.mp begins with whole | inner
  · rw [whole] at split
    exact (filled (List.append_right_eq_self.mp split.symm)).elim
  · exact inner

/-- No opening goes on behind a character that is not part of the mark. -/
theorem parted_of_not_mem {stop : Char} (unmarked : stop ∉ sourceMark) :
    Parted (sourceOpening other) (front ++ [stop]) back := by
  intro inside outside split ends _
  by_contra crossing
  rw [not_or] at crossing
  obtain ⟨more, rfl, _⟩ := (List.suffix_concat_iff.mp ends).resolve_left crossing.1
  exact unmarked ((prefix_sourceMark split crossing.2).subset (by simp))

theorem parted_of_quote (isQuote : quote ∈ quotes) :
    Parted (sourceOpening other) (front ++ [quote]) back :=
  parted_of_not_mem (not_mem_sourceMark quote isQuote)

/-- No opening goes on where a source begins. -/
theorem parted_of_source (isQuote : other ∈ quotes) :
    Parted (sourceOpening other) front (source quote value ++ back) := by
  intro inside outside split _ begins
  by_contra crossing
  rw [not_or] at crossing
  obtain ⟨c, inside, rfl⟩ := List.exists_cons_of_ne_nil crossing.1
  obtain ⟨d, outside, rfl⟩ := List.exists_cons_of_ne_nil crossing.2
  obtain ⟨more, held⟩ := begins
  obtain rfl : d = 's' := (List.cons.inj held).1
  have again : 's' ∈ (sourceOpening other).tail := by rw [split]; simp
  exact not_mem_sourceOpening_tail other isQuote again

/-- Two sources never overlap. -/
theorem unbordered_source (isAddress : IsAddress quote value) :
    Unbordered (source quote value) := by
  intro front back split filled begins
  by_contra left
  -- An end of the source ends with the quote, so as its beginning it is longer than the mark.
  have opened : sourceOpening quote <+: back := by
    rcases List.prefix_or_prefix_of_prefix begins (List.prefix_append _ _) with short | long
    · rcases List.prefix_concat_iff.mp short with whole | inner
      · exact whole ▸ List.prefix_rfl
      · have ends : back <:+ sourceOpening quote ++ value ++ [quote] :=
          ⟨front, by rw [← split, source, List.append_assoc]⟩
        obtain ⟨more, rfl, _⟩ := (List.suffix_concat_iff.mp ends).resolve_left left
        exact (not_mem_sourceMark quote isAddress.quoted (inner.subset (by simp))).elim
    · exact long
  obtain ⟨more, rfl⟩ := opened
  have alone := isAddress.alone quote isAddress.quoted
  rcases List.append_eq_append_iff.mp split with ⟨excess, _, held⟩ | ⟨excess, inside, held⟩
  · exact alone ⟨excess, more, by rw [held, List.append_assoc]⟩
  · have reaches : excess <+: source quote value ++ [] := by
      rw [List.append_nil]
      exact (List.IsPrefix.trans ⟨_, held.symm⟩ begins)
    rcases parted_of_source isAddress.quoted front excess inside List.suffix_rfl reaches with
      nothing | nothing
    · exact filled nothing
    · rw [nothing] at held
      exact alone ⟨[], more, by simpa using held⟩

/-- One text is the other with the directory of the assets put in front of an address. -/
inductive Relinks : List Char → List Char → Prop
  | lead (front : List Char) {quote : Char} (isQuote : quote ∈ quotes) (back : List Char) :
      Relinks (front ++ (sourceOpening quote ++ back))
        (front ++ (sourceOpening quote ++ (assetLead ++ back)))

/-- A text in which nothing changes but addresses of sources, which get the directory of the assets
in front of them. -/
def Linked : List Char → List Char → Prop :=
  Relation.ReflTransGen Relinks

theorem Linked.append_left (linked : Linked text out) (front : List Char) :
    Linked (front ++ text) (front ++ out) := by
  refine linked.lift (front ++ ·) fun _ _ step => ?_
  obtain ⟨kept, isQuote, back⟩ := step
  simpa only [List.append_assoc] using Relinks.lead (front ++ kept) isQuote back

theorem linked_of_inserts (isQuote : quote ∈ quotes)
    (inserts : Inserts (sourceOpening quote) assetLead value tail text out) : Linked text out := by
  induction inserts with
  | rest => exact .refl
  | @insert kept after out _ _ ih =>
      have behind : Linked (kept ++ (sourceOpening quote ++ (assetLead ++ after)))
          (kept ++ (sourceOpening quote ++ (assetLead ++ out))) :=
        ((ih.append_left assetLead).append_left _).append_left kept
      exact .trans (.single (.lead kept isQuote after)) behind

/-- Puts the directory of the assets in front of one name wherever a source in one kind of quotes
has it for its address. -/
def linkPass (text : List Char) (pass : Char × List Char) : List Char :=
  replaceChars (source pass.1 pass.2) (source pass.1 (assetLead ++ pass.2)) text

theorem inserts_linkPass (text : List Char) (pass : Char × List Char) :
    Inserts (sourceOpening pass.1) assetLead (pass.2 ++ [pass.1]) [] text (linkPass text pass) := by
  have inserts : Inserts (sourceOpening pass.1) assetLead (pass.2 ++ [pass.1]) [] (text.drop 0) _ :=
    inserts_replaceFrom sourceOpening_ne_nil
  rw [List.drop_zero, ← List.append_assoc assetLead] at inserts
  exact inserts

/-- A pass leaves a source with its address, or puts the directory of the assets in front of it. -/
theorem source_of_inserts (isAddress : IsAddress quote value) (isQuote : other ∈ quotes)
    (inserts : Inserts (sourceOpening other) assetLead (name ++ [other]) tail (source quote value)
      out) :
    out = source quote value ∨ out = source quote (assetLead ++ value) ∧ other = quote ∧
      name ++ [quote] <+: value ++ quote :: tail := by
  have parted : Parted (sourceOpening other) (sourceOpening quote) (value ++ [quote]) :=
    parted_of_quote isAddress.quoted
  obtain ⟨newOpening, newAddress, rfl, ofOpening, ofAddress⟩ := inserts.cut parted
  obtain rfl := ofAddress.eq_of_absent (isAddress.alone other isQuote)
  rcases ofOpening.cases_of_length_le sourceOpening_ne_nil le_rfl with
    rfl | ⟨same, rfl, follows⟩
  · exact .inl rfl
  · obtain rfl : quote = other := by simpa [sourceOpening] using same
    exact .inr ⟨by simp [source], rfl, by simpa using follows⟩

/-- The passes that are made: for one kind of quotes each, and for no name that leads out. -/
structure IsLinkPass (pass : Char × List Char) : Prop where
  quoted : pass.1 ∈ quotes
  inside : ¬assetLead <+: pass.2

/-- A text that holds a source with an address, and around it what becomes of two texts when
addresses in them are linked. -/
inductive LinksAround (quote : Char) (value front back : List Char) : List Char → Prop
  | linked {newFront newBack : List Char} (ofFront : Linked front newFront)
      (ofBack : Linked back newBack) :
      LinksAround quote value front back (newFront ++ (source quote value ++ newBack))

variable {pass : Char × List Char}

theorem LinksAround.trans {middle behind : List Char} (ofFront : Linked front middle)
    (ofBack : Linked back behind) (around : LinksAround quote value middle behind out) :
    LinksAround quote value front back out := by
  obtain ⟨ofMiddle, ofBehind⟩ := around
  exact .linked (ofFront.trans ofMiddle) (ofBack.trans ofBehind)

theorem linkPass_source (isAddress : IsAddress quote value) (isPass : IsLinkPass pass)
    (front back : List Char) :
    ∃ newValue,
      LinksAround quote newValue front back
        (linkPass (front ++ (source quote value ++ back)) pass) ∧
      (newValue = value ∨ newValue = assetLead ++ value ∧ pass.1 = quote ∧
        pass.2 ++ [quote] <+: value ++ quote :: back) := by
  obtain ⟨newFront, rest, made, ofFront, ofRest⟩ :=
    (inserts_linkPass _ pass).cut (parted_of_source isPass.quoted)
  have parted : Parted (sourceOpening pass.1) (source quote value) back := by
    rw [source, ← List.append_assoc]
    exact parted_of_quote isAddress.quoted
  obtain ⟨newSource, newBack, rfl, ofSource, ofBack⟩ := ofRest.cut parted
  rw [List.append_nil] at ofSource
  have front := linked_of_inserts isPass.quoted ofFront
  have back := linked_of_inserts isPass.quoted ofBack
  rw [made]
  rcases source_of_inserts isAddress isPass.quoted ofSource with rfl | ⟨rfl, changed⟩
  · exact ⟨value, .linked front back, .inl rfl⟩
  · exact ⟨_, .linked front back, .inr ⟨rfl, changed⟩⟩

/-- The pass for an address finds every source that has it. -/
theorem linkPass_own (isAddress : IsAddress quote value) (front back : List Char) :
    LinksAround quote (assetLead ++ value) front back
      (linkPass (front ++ (source quote value ++ back)) (quote, value)) := by
  have own : linkPass (front ++ (source quote value ++ back)) (quote, value) =
      linkPass front (quote, value) ++
        (source quote (assetLead ++ value) ++ linkPass back (quote, value)) :=
    replaceFrom_occurrence (unbordered_source isAddress) (by simp [source, sourceOpening])
      (Nat.zero_le _)
  rw [own]
  exact .linked (linked_of_inserts isAddress.quoted (inserts_linkPass front (quote, value)))
    (linked_of_inserts isAddress.quoted (inserts_linkPass back (quote, value)))

/-- No opening goes on behind the directory of the assets. -/
theorem parted_assetLead : Parted (sourceOpening other) assetLead back := by
  have ends : assetLead = "../assets".toList ++ ['/'] := rfl
  rw [ends]
  exact parted_of_not_mem (by decide)

theorem IsAddress.lead (isAddress : IsAddress quote value) :
    IsAddress quote (assetLead ++ value) := by
  refine ⟨isAddress.quoted, ?_, fun other isQuote opened => ?_⟩
  · simp [not_mem_assetLead quote isAddress.quoted, isAddress.unquoted]
  · rw [List.append_assoc] at opened
    rcases parted_assetLead.inside_or_inside opened with inLead | inValue
    · exact not_mem_assetLead other isQuote (inLead.subset (by simp [sourceOpening]))
    · exact isAddress.alone other isQuote inValue

/-- A name that is closed where an address goes on is no shorter than the address. -/
theorem prefix_of_closed (unquoted : quote ∉ value) (begins : name ++ [quote] <+: value ++ back) :
    value <+: name := by
  rcases List.prefix_or_prefix_of_prefix begins (List.prefix_append value back) with short | long
  · exact (unquoted (short.subset (by simp))).elim
  · rcases List.prefix_concat_iff.mp long with rfl | inner
    · simp at unquoted
    · exact inner

theorem closed_of_closed (unquoted : quote ∉ value)
    (begins : name ++ [quote] <+: value ++ quote :: back) :
    value ++ [quote] <+: name ++ [quote] := by
  have longer := (prefix_of_closed unquoted begins).length_le
  rw [List.append_cons value quote back] at begins
  exact List.prefix_of_prefix_length_le (List.prefix_append _ _) begins (by simpa using longer)

theorem eq_of_closed (unquoted : quote ∉ name)
    (begins : value ++ [quote] <+: name ++ [quote]) : value = name := by
  have shorter := begins.length_le
  have same := (prefix_of_closed unquoted begins).eq_of_length_le (by simpa using shorter)
  exact same.symm

/-- The pass for an address changes it, and any other pass changes it only by a name that goes on
behind a quote of the same kind. -/
theorem linkPass_cases (isAddress : IsAddress quote value) (isPass : IsLinkPass pass)
    (front back : List Char) :
    ∃ newValue,
      LinksAround quote newValue front back
        (linkPass (front ++ (source quote value ++ back)) pass) ∧
      (newValue = value ∧ (quote, value) ≠ pass ∨ newValue = assetLead ++ value ∧
        pass.1 = quote ∧ value ++ [quote] <+: pass.2 ++ [quote]) := by
  by_cases own : (quote, value) = pass
  · subst own
    exact ⟨_, linkPass_own isAddress front back, .inr ⟨rfl, rfl, List.prefix_rfl⟩⟩
  · obtain ⟨newValue, around, kept | ⟨changed, same, begins⟩⟩ :=
      linkPass_source isAddress isPass front back
    · exact ⟨newValue, around, .inl ⟨kept, own⟩⟩
    · exact ⟨newValue, around,
        .inr ⟨changed, same, closed_of_closed isAddress.unquoted begins⟩⟩

/-- An address that leads to the assets is not changed again. -/
theorem linkPass_led (isAddress : IsAddress quote value) (isPass : IsLinkPass pass)
    (front back : List Char) :
    LinksAround quote (assetLead ++ value) front back
      (linkPass (front ++ (source quote (assetLead ++ value) ++ back)) pass) := by
  obtain ⟨newValue, around, rfl | ⟨_, rfl, begins⟩⟩ :=
    linkPass_source isAddress.lead isPass front back
  · exact around
  · have outside := prefix_of_closed isAddress.lead.unquoted begins
    exact (isPass.inside ((List.prefix_append _ _).trans outside)).elim

theorem foldl_linkPass_led (isAddress : IsAddress quote value)
    (arePasses : ∀ pass ∈ passes, IsLinkPass pass) (front back : List Char) :
    LinksAround quote (assetLead ++ value) front back
      (passes.foldl linkPass (front ++ (source quote (assetLead ++ value) ++ back))) := by
  induction passes generalizing front back with
  | nil => exact .linked .refl .refl
  | cons pass rest ih =>
      obtain ⟨isPass, areLater⟩ := List.forall_mem_cons.mp arePasses
      have step := linkPass_led isAddress isPass front back
      rw [List.foldl_cons]
      generalize linkPass _ pass = middle at step
      obtain ⟨ofFront, ofBack⟩ := step
      exact .trans ofFront ofBack (ih areLater _ _)

/-- An address is changed in some pass if one is made for it, and only by a name that is the address
or goes on behind a quote. -/
theorem foldl_linkPass_source (isAddress : IsAddress quote value)
    (arePasses : ∀ pass ∈ passes, IsLinkPass pass) (front back : List Char) :
    ∃ newValue,
      LinksAround quote newValue front back
        (passes.foldl linkPass (front ++ (source quote value ++ back))) ∧
      (newValue = value ∧ (quote, value) ∉ passes ∨ newValue = assetLead ++ value ∧
        ∃ name, (quote, name) ∈ passes ∧ value ++ [quote] <+: name ++ [quote]) := by
  induction passes generalizing front back with
  | nil => exact ⟨value, .linked .refl .refl, .inl ⟨rfl, List.not_mem_nil⟩⟩
  | cons pass rest ih =>
      -- What stands around the source may change in every pass, and with it what the next finds.
      obtain ⟨isPass, areLater⟩ := List.forall_mem_cons.mp arePasses
      rw [List.foldl_cons]
      obtain ⟨newValue, step, outcome⟩ := linkPass_cases isAddress isPass front back
      generalize linkPass _ pass = middle at step
      obtain ⟨ofFront, ofBack⟩ := step
      rcases outcome with ⟨rfl, other⟩ | ⟨rfl, rfl, begins⟩
      · obtain ⟨newValue, around, outcome⟩ := ih areLater _ _
        refine ⟨newValue, .trans ofFront ofBack around, ?_⟩
        rcases outcome with ⟨kept, unlisted⟩ | ⟨changed, name, listed, begins⟩
        · exact .inl ⟨kept, List.not_mem_cons_of_ne_of_not_mem other unlisted⟩
        · exact .inr ⟨changed, name, .tail _ listed, begins⟩
      · exact ⟨_, .trans ofFront ofBack (foldl_linkPass_led isAddress areLater _ _),
          .inr ⟨rfl, pass.2, List.mem_cons_self, begins⟩⟩

/-- The passes that link a list of names. -/
def linkPasses (names : List String) : List (Char × List Char) :=
  names.flatMap fun name => quotes.map fun quote => (quote, name.toList)

theorem mem_linkPasses {names : List String} :
    pass ∈ linkPasses names ↔ pass.1 ∈ quotes ∧ ∃ name ∈ names, name.toList = pass.2 := by
  obtain ⟨quote, letters⟩ := pass
  simp only [linkPasses, List.mem_flatMap, List.mem_map, Prod.mk.injEq]
  constructor
  · intro ⟨name, listed, _, isQuote, rfl, same⟩
    exact ⟨isQuote, name, listed, same⟩
  · intro ⟨isQuote, name, listed, same⟩
    exact ⟨name, listed, quote, isQuote, rfl, same⟩

theorem linkAsset_toList (markup name : String) :
    (linkAsset markup name).toList =
      (quotes.map fun quote => (quote, name.toList)).foldl linkPass markup.toList := by
  have one (markup : String) (quote : Char) :
      (replace (sourceAttribute quote name) (sourceAttribute quote (assetHref name))
        markup).toList = linkPass markup.toList (quote, name.toList) := by
    rw [replace, String.toList_ofList, sourceAttribute_toList, sourceAttribute_toList,
      assetHref_toList, linkPass]
  exact (one _ _).trans (congrArg (linkPass · _) (one _ _))

theorem linkAssets_toList (names : List String) (markup : String) :
    (linkAssets names markup).toList = (linkPasses names).foldl linkPass markup.toList := by
  induction names generalizing markup with
  | nil => rfl
  | cons name rest ih =>
      rw [linkAssets, List.foldl_cons, ← linkAssets, ih, linkAsset_toList, ← List.foldl_append]
      rfl

theorem improperAssetName?_eq_none_iff {names : List String} :
    improperAssetName? names = none ↔ ∀ name ∈ names, isAssetName name = true := by
  simp [improperAssetName?]

/-- The name of an asset does not lead out of the directory of the assets. -/
theorem not_led_of_isAssetName {name : String} (proper : isAssetName name = true) :
    ¬assetLead <+: name.toList := by
  intro ⟨rest, out⟩
  have cut : name.toList = ['.', '.'] ++ '/' :: ("assets/".toList ++ rest) := out.symm
  have up : ".." ∈ Path.parts name := by
    rw [Path.parts, cut, Path.splitSlash_append, List.map_append]
    exact List.mem_append_left _ (by decide)
  have named := (Bool.and_eq_true_iff.mp proper).2
  simpa using List.all_eq_true.mp named ".." up

theorem isLinkPass_of_proper {names : List String}
    (proper : ∀ name ∈ names, isAssetName name = true) :
    ∀ pass ∈ linkPasses names, IsLinkPass pass := by
  intro pass member
  obtain ⟨isQuote, name, listed, same⟩ := mem_linkPasses.mp member
  exact ⟨isQuote, same ▸ not_led_of_isAssetName (proper name listed)⟩

/-- A source whose address is listed leads to the assets. Any other stays as it is, unless a listed
name goes on behind a quote where the address ends. -/
theorem linkAssets_source {names : List String} (proper : ∀ name ∈ names, isAssetName name = true)
    {value : String} (isAddress : IsAddress quote value.toList) (front back : String) :
    ∃ newFront newValue newBack,
      linkAssets names (front ++ sourceAttribute quote value ++ back) =
        newFront ++ sourceAttribute quote newValue ++ newBack ∧
      Linked front.toList newFront.toList ∧ Linked back.toList newBack.toList ∧
      (newValue = value ∧ value ∉ names ∨ newValue = assetHref value ∧
        ∃ name ∈ names, value.toList ++ [quote] <+: name.toList ++ [quote]) := by
  obtain ⟨newValue, around, outcome⟩ :=
    foldl_linkPass_source isAddress (isLinkPass_of_proper proper) front.toList back.toList
  have whole : (front ++ sourceAttribute quote value ++ back).toList =
      front.toList ++ (source quote value.toList ++ back.toList) := by
    rw [String.toList_append, String.toList_append, sourceAttribute_toList, List.append_assoc]
  rw [← whole, ← linkAssets_toList] at around
  generalize linkAssets names _ = built at around ⊢
  generalize letters : built.toList = text at around
  obtain @⟨newFront, newBack, ofFront, ofBack⟩ := around
  refine ⟨String.ofList newFront, String.ofList newValue, String.ofList newBack, ?_, ?_, ?_, ?_⟩
  · rw [← String.toList_inj, letters]
    simp only [String.toList_append, sourceAttribute_toList, String.toList_ofList,
      List.append_assoc]
  · rwa [String.toList_ofList]
  · rwa [String.toList_ofList]
  · rcases outcome with ⟨rfl, unlisted⟩ | ⟨rfl, _, made, begins⟩
    · exact .inl ⟨String.ofList_toList, fun listed =>
        unlisted (mem_linkPasses.mpr ⟨isAddress.quoted, value, listed, rfl⟩)⟩
    · obtain ⟨_, name, listed, rfl⟩ := mem_linkPasses.mp made
      have led : String.ofList (assetLead ++ value.toList) = assetHref value := by
        rw [← assetHref_toList, String.ofList_toList]
      exact .inr ⟨led, name, listed, begins⟩

end QuizPackage
